import MeetingLog.Proofs.Text.Blank
import MeetingLog.Proofs.Trace.Line

/-!
# Messages read back

The three kinds of notes that say what a record says are read back as this
record. All other notes begin differently, and tell of no record.
-/

namespace MeetingLog.Trace

open MeetingLog.Calendar
open MeetingLog.Text

/-- `IsName identity` means that the identity can be told from what stands
around it in a message: it is neither empty nor surrounded by blank characters,
and has no colon and nothing that ends a line or would be written as an
escape. -/
structure IsName (identity : String) : Prop where
  notEmpty : identity ≠ ""
  trimmed : trim identity = identity
  noColon : ':' ∉ identity.toList
  plain : IsPlain identity

/-- `disagrees expected front` means that somewhere at their beginnings the two
lists hold different characters. -/
def disagrees : List Char → List Char → Bool
  | expected :: others, c :: rest =>
      decide (expected ≠ c) || disagrees others rest
  | _, _ => false

theorem expect?_of_disagrees {expected front : List Char}
    (different : disagrees expected front = true) (rest : List Char) :
    expect? expected (front ++ rest) = none := by
  induction expected generalizing front with
  | nil => cases different
  | cons letter others inductionHypothesis =>
      cases front with
      | nil => cases different
      | cons c front =>
          rw [disagrees, Bool.or_eq_true, decide_eq_true_iff] at different
          rw [List.cons_append, expect?, expectChar?]
          by_cases same : c = letter
          · rw [if_pos same]
            rcases different with (other | later)
            · exact absurd same.symm other
            · exact inductionHypothesis later
          · rw [if_neg same]
            rfl

theorem expectChar?_of_disagrees {expected : Char} {front : List Char}
    (different : disagrees [expected] front = true) (rest : List Char) :
    expectChar? expected (front ++ rest) = none := by
  have none := expect?_of_disagrees different rest
  rw [expect?] at none
  cases found : expectChar? expected (front ++ rest) with
  | none => rfl
  | some others =>
      rw [found] at none
      cases none

theorem readSpoken?_of_disagrees {front : List Char}
    (different : disagrees ['['] front = true) (rest : List Char) :
    readSpoken? (front ++ rest) = none := by
  have none := expectChar?_of_disagrees different rest
  generalize front ++ rest = message at none
  rw [readSpoken?, none]
  rfl

theorem readMessage?_of_presence {loggedAt : Moment} {message : List Char}
    {lifecycle : Lifecycle} (silent : readSpoken? message = none)
    (presence : readPresence? loggedAt.time message = some lifecycle) :
    readMessage? loggedAt message =
      some ⟨loggedAt, .lifecycle lifecycle⟩ := by
  rw [readMessage?, silent]
  dsimp only
  rw [presence, Option.map_some]

theorem recovered?_info (time : Moment) (message : String) :
    (Entry.mk time (Note.info message)).recovered? =
      readMessage? time.wholeSecond (trimLineEnd (writeMessage message)) :=
  if_pos rfl

/-- `EndsVisibly letters` means that the last letter is not blank. -/
def EndsVisibly (letters : List Char) : Prop :=
  ∃ front last, letters = front ++ [last] ∧ isBlank last = false

theorem endsVisibly_trim (text : String) (notEmpty : trim text ≠ "") :
    EndsVisibly (trim text).toList := by
  have letters : (trim text).toList = trimLetters text.toList :=
    String.toList_ofList
  rw [letters]
  refine exists_last_trimLetters fun empty => notEmpty ?_
  rw [trim, empty]

theorem EndsVisibly.trimLineEnd {letters : List Char}
    (ends : EndsVisibly letters) (front : List Char) :
    trimLineEnd (front ++ letters) = front ++ letters := by
  obtain ⟨inner, last, rfl, visible⟩ := ends
  have noReturn : last ≠ '\r' := by
    rintro rfl
    exact absurd visible (by decide)
  have noFeed : last ≠ '\n' := by
    rintro rfl
    exact absurd visible (by decide)
  rw [← List.append_assoc]
  exact trimLineEnd_append_singleton noReturn noFeed (front ++ inner)

theorem EndsVisibly.append {letters : List Char} (ends : EndsVisibly letters)
    (front : List Char) : EndsVisibly (front ++ letters) := by
  obtain ⟨inner, last, rfl, visible⟩ := ends
  exact ⟨front ++ inner, last, (List.append_assoc ..).symm, visible⟩

theorem EndsVisibly.words_ne_nil {letters : List Char}
    (ends : EndsVisibly letters) : words letters ≠ [] := by
  obtain ⟨inner, last, rfl, visible⟩ := ends
  intro empty
  rw [words_eq_nil_iff, List.all_append, Bool.and_eq_true] at empty
  have blank : isBlank last = true := by simpa using empty.2
  rw [visible] at blank
  cases blank

section

variable {identity : String}

/-- `IsTrimmed identity` means that the identity is neither empty nor surrounded
by blank characters. -/
structure IsTrimmed (identity : String) : Prop where
  notEmpty : identity ≠ ""
  trimmed : trim identity = identity

theorem IsTrimmed.trimLetters (name : IsTrimmed identity) :
    trimLetters identity.toList = identity.toList := by
  have letters : (trim identity).toList = Text.trimLetters identity.toList :=
    String.toList_ofList
  rw [← letters, name.trimmed]

theorem IsTrimmed.endsVisibly (name : IsTrimmed identity) :
    EndsVisibly identity.toList := by
  have ends := endsVisibly_trim identity
  rw [name.trimmed] at ends
  exact ends name.notEmpty

theorem IsTrimmed.isEmpty (name : IsTrimmed identity) :
    identity.toList.isEmpty = false := by
  obtain ⟨front, last, equality, -⟩ := name.endsVisibly
  rw [equality]
  cases front <;> rfl

theorem IsName.isTrimmed (name : IsName identity) : IsTrimmed identity :=
  ⟨name.notEmpty, name.trimmed⟩

/-! ## Presence -/

theorem readParticipant?_name (name : IsTrimmed identity)
    (oneLine : IsOneLine identity) :
    readParticipant? identity.toList = some identity := by
  have noFeed : identity.toList.contains '\n' = false := by
    simpa [IsOneLine] using oneLine
  rw [readParticipant?]
  simp only [name.trimLetters, noFeed, name.isEmpty, Bool.or_self,
    Bool.false_eq_true, if_false, String.ofList_toList]

theorem written_of_name {front : String} (plain : IsPlain front)
    (name : IsName identity) :
    trimLineEnd (writeMessage (front ++ identity)) =
      front.toList ++ identity.toList := by
  rw [writeMessage_of_isPlain (plain.append name.plain), String.toList_append]
  exact name.isTrimmed.endsVisibly.trimLineEnd front.toList

theorem connectedMessage_eq (participant : String) :
    (connectedMessage participant).toList =
      "Participant connected: ".toList ++ participant.toList :=
  String.toList_append

theorem disconnectedMessage_eq (participant : String) :
    (disconnectedMessage participant).toList =
      "Participant disconnected: ".toList ++ participant.toList :=
  String.toList_append

theorem readPresence?_connected (name : IsTrimmed identity)
    (oneLine : IsOneLine identity) (time : ClockTime) :
    readPresence? time
        ("Participant connected: ".toList ++ identity.toList) =
      some ⟨time, identity, .joined⟩ := by
  have front : (connectedMessage "").toList =
      "Participant connected: ".toList :=
    (connectedMessage_eq "").trans (List.append_nil _)
  rw [readPresence?, front, expect?_append]
  dsimp only
  rw [readParticipant?_name name oneLine, Option.map_some]

theorem readPresence?_disconnected (name : IsTrimmed identity)
    (oneLine : IsOneLine identity) (time : ClockTime) :
    readPresence? time
        ("Participant disconnected: ".toList ++ identity.toList) =
      some ⟨time, identity, .left⟩ := by
  have other : expect? (connectedMessage "").toList
      ("Participant disconnected: ".toList ++ identity.toList) = none := by
    rw [connectedMessage_eq]
    exact expect?_of_disagrees (by decide) _
  have front : (disconnectedMessage "").toList =
      "Participant disconnected: ".toList :=
    (disconnectedMessage_eq "").trans (List.append_nil _)
  rw [readPresence?, other, front, expect?_append]
  dsimp only
  rw [readParticipant?_name name oneLine, Option.map_some]

/-- A note whose message has the name of somebody behind its front is read back,
if this is how the message is read. -/
theorem recovered?_presence {front : String} (plain : IsPlain front)
    (notSpoken : disagrees ['['] front.toList = true)
    (name : IsName identity) {kind : LifecycleKind}
    (read : ∀ time, readPresence? time (front.toList ++ identity.toList) =
      some ⟨time, identity, kind⟩)
    (time : Moment) :
    (Entry.mk time (Note.info (front ++ identity))).recovered? =
      some ⟨time.wholeSecond,
        .lifecycle ⟨time.time.wholeSecond, identity, kind⟩⟩ := by
  have silent : readSpoken? (front.toList ++ identity.toList) = none :=
    readSpoken?_of_disagrees notSpoken identity.toList
  rw [recovered?_info, written_of_name plain name]
  exact readMessage?_of_presence silent (read time.time.wholeSecond)

theorem recovered?_connected (name : IsName identity) (time : Moment) :
    (Entry.mk time (Note.info (connectedMessage identity))).recovered? =
      some ⟨time.wholeSecond,
        .lifecycle ⟨time.time.wholeSecond, identity, .joined⟩⟩ := by
  have plain : IsPlain "Participant connected: " := by decide +kernel
  exact recovered?_presence plain (by decide) name
    (readPresence?_connected name.isTrimmed name.plain.isOneLine) time

theorem recovered?_disconnected (name : IsName identity) (time : Moment) :
    (Entry.mk time (Note.info (disconnectedMessage identity))).recovered? =
      some ⟨time.wholeSecond,
        .lifecycle ⟨time.time.wholeSecond, identity, .left⟩⟩ := by
  have plain : IsPlain "Participant disconnected: " := by decide +kernel
  exact recovered?_presence plain (by decide) name
    (readPresence?_disconnected name.isTrimmed name.plain.isOneLine) time

end

/-! ## Speech -/

theorem plain_digits : ∀ value < 10,
    writeLetter (digitChar value) = [digitChar value] := by
  decide

theorem isPlain_write (time : ClockTime) : IsPlain time.write := by
  have digits (number : Nat) : ∀ c ∈ fixedDigits 2 number,
      c ≠ '\n' ∧ writeLetter c = [c] := by
    intro c member
    obtain ⟨value, rfl⟩ := mem_fixedDigits member
    refine ⟨digitChar_ne_feed value, ?_⟩
    rw [← digitChar_mod]
    exact plain_digits (value % 10) (Nat.mod_lt _ (by decide))
  have colon : ':' ≠ '\n' ∧ writeLetter ':' = [':'] := by decide
  intro c member
  rw [ClockTime.write, String.toList_ofList, ClockTime.letters] at member
  simp only [List.mem_append, List.mem_cons] at member
  rcases member with ((hour | rfl | minute) | rfl | second)
  · exact digits _ c hour
  · exact colon
  · exact digits _ c minute
  · exact colon
  · exact digits _ c second

theorem takeWhile_name {name : List Char} (noColon : ':' ∉ name)
    (rest : List Char) :
    (name ++ ':' :: rest).takeWhile (fun c => decide (c ≠ ':')) = name ∧
      (name ++ ':' :: rest).dropWhile (fun c => decide (c ≠ ':')) =
        ':' :: rest := by
  have all : ∀ c ∈ name, decide (c ≠ ':') = true := by
    intro c member
    refine decide_eq_true fun equality => noColon ?_
    rw [← equality]
    exact member
  constructor
  · rw [List.takeWhile_append_of_pos all,
      List.takeWhile_cons_of_neg (by decide), List.append_nil]
  · rw [List.dropWhile_append_of_pos all,
      List.dropWhile_cons_of_neg (by decide)]

theorem spokenMessage_eq (transcript : Transcript) :
    (spokenMessage transcript).toList =
      '[' :: (transcript.time.letters ++ (']' :: ' ' ::
        (transcript.participant.toList ++
          (':' :: ' ' :: transcript.text.toList)))) := by
  simp [spokenMessage, ClockTime.write]

section

variable {transcript : Transcript}

theorem isPlain_spokenMessage (name : IsName transcript.participant)
    (plain : IsPlain transcript.text) :
    IsPlain (spokenMessage transcript) := by
  have opening : IsPlain "[" := by decide +kernel
  have closing : IsPlain "] " := by decide +kernel
  have colon : IsPlain ": " := by decide +kernel
  exact ((((opening.append (isPlain_write _)).append closing).append
    name.plain).append colon).append plain

/-- What somebody said is read from its message, with its blank characters
collapsed. -/
theorem readSpoken?_spokenMessage (name : IsTrimmed transcript.participant)
    (noColon : ':' ∉ transcript.participant.toList)
    (oneLine : IsOneLine transcript.text)
    (ends : EndsVisibly transcript.text.toList) :
    readSpoken? (spokenMessage transcript).toList =
      some ⟨transcript.time.wholeSecond, transcript.participant,
        collapse transcript.text,
        UInt64.ofNat (words transcript.text.toList).length⟩ := by
  obtain ⟨taken, left⟩ := takeWhile_name noColon
    (' ' :: transcript.text.toList)
  have noFeed : transcript.text.toList.contains '\n' = false := by
    simpa [IsOneLine] using oneLine
  have spoken : (words transcript.text.toList).isEmpty = false := by
    simpa using ends.words_ne_nil
  have bracket (rest : List Char) :
      expect? [']', ' '] (']' :: ' ' :: rest) = some rest :=
    expect?_append [']', ' '] rest
  have colon (rest : List Char) :
      expect? [':', ' '] (':' :: ' ' :: rest) = some rest :=
    expect?_append [':', ' '] rest
  rw [spokenMessage_eq, readSpoken?]
  simp only [expectChar?_cons, readClock?_letters, bracket, taken, left,
    colon, noFeed, name.trimLetters, name.isEmpty, spoken, Bool.or_self,
    Bool.false_eq_true, if_false, String.ofList_toList, Option.bind_eq_bind,
    Option.bind_some]
  rfl

/-- A note of something said is read back. -/
theorem recovered?_spoken (name : IsName transcript.participant)
    (plain : IsPlain transcript.text)
    (ends : EndsVisibly transcript.text.toList) (time : Moment) :
    (Entry.mk time (Note.info (spokenMessage transcript))).recovered? =
      some ⟨time.wholeSecond,
        .transcript ⟨transcript.time.wholeSecond, transcript.participant,
          collapse transcript.text,
          UInt64.ofNat (words transcript.text.toList).length⟩⟩ := by
  have written : trimLineEnd (writeMessage (spokenMessage transcript)) =
      (spokenMessage transcript).toList := by
    have ending : ∃ front, (spokenMessage transcript).toList =
        front ++ transcript.text.toList :=
      ⟨_, String.toList_append⟩
    obtain ⟨front, equality⟩ := ending
    rw [writeMessage_of_isPlain (isPlain_spokenMessage name plain), equality]
    exact ends.trimLineEnd front
  refine (recovered?_info time (spokenMessage transcript)).trans ?_
  rw [written, readMessage?, readSpoken?_spokenMessage name.isTrimmed
    name.noColon plain.isOneLine ends]

end

/-! ## Other notes -/

/-- `note.IsAside` means that the note is written on one line, if it is shown
at all, and tells of no record. -/
structure Note.IsAside (note : Note) : Prop where
  oneLine : Level.info.allows note.level = true → IsOneLine note.message
  silent : ∀ time, (Entry.mk time note).recovered? = none

theorem isAside_debug (text : String) : (Note.debug text).IsAside :=
  ⟨nofun, fun _ => if_neg nofun⟩

theorem isAside_warning {text : String} (oneLine : IsOneLine text) :
    (Note.warning text).IsAside :=
  ⟨fun _ => oneLine, fun _ => if_neg nofun⟩

theorem isAside_error {text : String} (oneLine : IsOneLine text) :
    (Note.error text).IsAside :=
  ⟨fun _ => oneLine, fun _ => if_neg nofun⟩

theorem expect?_of_shorter {expected letters more : List Char}
    (shorter : letters <+: more) (absent : expect? expected more = none) :
    expect? expected letters = none := by
  induction expected generalizing letters more with
  | nil => cases absent
  | cons letter others inductionHypothesis =>
      cases letters with
      | nil => rfl
      | cons c rest =>
          obtain ⟨added, rfl⟩ := shorter
          rw [List.cons_append, expect?, expectChar?] at absent
          rw [expect?, expectChar?]
          by_cases same : c = letter
          · rw [if_pos same] at absent ⊢
            exact inductionHypothesis (List.prefix_append rest added) absent
          · rw [if_neg same]
            rfl

/-- A message that begins like none of the three kinds tells of no record. -/
theorem readMessage?_eq_none {message : List Char}
    (notSpoken : expect? ['['] message = none)
    (notConnected : expect? "Participant connected: ".toList message = none)
    (notDisconnected :
      expect? "Participant disconnected: ".toList message = none)
    (loggedAt : Moment) : readMessage? loggedAt message = none := by
  have silent : readSpoken? message = none := by
    rw [expect?] at notSpoken
    rw [readSpoken?]
    cases found : expectChar? '[' message with
    | none => rfl
    | some rest =>
        rw [found] at notSpoken
        cases notSpoken
  have connected : (connectedMessage "").toList =
      "Participant connected: ".toList :=
    (connectedMessage_eq "").trans (List.append_nil _)
  have disconnected : (disconnectedMessage "").toList =
      "Participant disconnected: ".toList :=
    (disconnectedMessage_eq "").trans (List.append_nil _)
  rw [readMessage?, silent]
  dsimp only
  rw [readPresence?, connected, notConnected, disconnected, notDisconnected]
  rfl

/-- `BeginsAside front` means that a message which begins with `front` begins
like none of the three kinds. -/
def BeginsAside (front : String) : Prop :=
  IsPlain front ∧ disagrees ['['] front.toList = true ∧
    disagrees "Participant connected: ".toList front.toList = true ∧
    disagrees "Participant disconnected: ".toList front.toList = true

instance (front : String) : Decidable (BeginsAside front) :=
  inferInstanceAs (Decidable (_ ∧ _ ∧ _ ∧ _))

/-- A note that begins with a text of its own tells of no record. -/
theorem isAside_info {front : String} (begins : BeginsAside front)
    {rest : String} (oneLine : IsOneLine rest) :
    (Note.info (front ++ rest)).IsAside := by
  obtain ⟨plain, notSpoken, notConnected, notDisconnected⟩ := begins
  refine ⟨fun _ => plain.isOneLine.append oneLine, fun time => ?_⟩
  have written : writeMessage (front ++ rest) =
      front.toList ++ writeMessage rest := by
    rw [writeMessage_append, writeMessage_of_isPlain plain]
  have shorter := trimLineEnd_prefix (writeMessage (front ++ rest))
  rw [written] at shorter
  rw [recovered?_info, written]
  exact readMessage?_eq_none
    (expect?_of_shorter shorter (expect?_of_disagrees notSpoken _))
    (expect?_of_shorter shorter (expect?_of_disagrees notConnected _))
    (expect?_of_shorter shorter (expect?_of_disagrees notDisconnected _))
    time.wholeSecond

theorem isAside_alone {message : String} (begins : BeginsAside message) :
    (Note.info message).IsAside := by
  have empty : IsOneLine "" := nofun
  have alone := isAside_info begins empty
  rwa [String.append_empty] at alone

end MeetingLog.Trace
