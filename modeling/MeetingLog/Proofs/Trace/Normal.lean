import MeetingLog.Proofs.Trace.Grammar

/-!
# Normal forms of recovered records

Whatever is read from a trace line is in normal form: names are trimmed, and
texts have single spaces between their words. Written on a line again, with any
fraction of a second, it is read as the same.
-/

namespace MeetingLog.Trace

open MeetingLog.Calendar
open MeetingLog.Text

/-- `IsCollapsed text` means that the text has words, with single spaces between
them and nothing else. -/
structure IsCollapsed (text : String) : Prop where
  notEmpty : text ≠ ""
  collapsed : collapse text = text

theorem IsCollapsed.words_ne_nil {text : String} (normal : IsCollapsed text) :
    words text.toList ≠ [] := by
  intro none
  have empty : collapse text = "" := by
    rw [collapse, none]
    rfl
  exact normal.notEmpty (normal.collapsed.symm.trans empty)

theorem IsCollapsed.toList_eq {text : String} (normal : IsCollapsed text) :
    text.toList = joinWords (words text.toList) := by
  have letters := congrArg String.toList normal.collapsed
  rw [collapse, String.toList_ofList] at letters
  exact letters.symm

theorem IsCollapsed.endsVisibly {text : String} (normal : IsCollapsed text) :
    EndsVisibly text.toList := by
  obtain ⟨front, last, joined, visible⟩ := exists_last_joinWords
    (fun _ member => isWord_of_mem_words member) normal.words_ne_nil
  exact ⟨front, last, normal.toList_eq.trans joined, visible⟩

theorem IsCollapsed.isOneLine {text : String} (normal : IsCollapsed text) :
    IsOneLine text := by
  intro member
  rw [normal.toList_eq] at member
  rcases mem_joinWords (fun _ inText => isWord_of_mem_words inText) member
    with space | visible
  · cases space
  · exact absurd visible (by decide)

/-- Words that are joined make a text that is collapsed. -/
theorem isCollapsed_ofList {letters : List Char} (spoken : words letters ≠ []) :
    IsCollapsed (String.ofList (joinWords (words letters))) := by
  constructor
  · intro empty
    have none : joinWords (words letters) = [] :=
      String.ofList_injective empty
    rw [← words_joined, none] at spoken
    exact spoken rfl
  · rw [collapse, String.toList_ofList, words_joined]

theorem isTrimmed_ofList {letters : List Char}
    (named : trimLetters letters ≠ []) :
    IsTrimmed (String.ofList (trimLetters letters)) := by
  constructor
  · exact fun empty => named (String.ofList_injective empty)
  · rw [trim, String.toList_ofList, trimLetters_trimLetters]

/-! ## What is read -/

/-- `entry.IsNormal` means that an entry read from the trace is in normal
form. -/
structure Recovered.IsNormal (entry : Recovered) : Prop where
  named : IsTrimmed entry.record.participant
  spoken : ∀ transcript, entry.record = .transcript transcript →
    ':' ∉ transcript.participant.toList ∧ IsCollapsed transcript.text ∧
      transcript.wordCount = .ofNat (wordCount transcript.text)
  presence : ∀ lifecycle, entry.record = .lifecycle lifecycle →
    IsOneLine lifecycle.participant ∧
      (lifecycle.kind = .joined ∨ lifecycle.kind = .left) ∧
      lifecycle.time = entry.loggedAt.time

/-- What stands in front of the first colon has none. -/
theorem exists_name_of_colon {rest text : List Char}
    (colon : expect? [':', ' '] (rest.dropWhile fun c => decide (c ≠ ':')) =
      some text) :
    ∃ name, rest.takeWhile (fun c => decide (c ≠ ':')) = name ∧
      ':' ∉ name ∧ rest = name ++ ':' :: ' ' :: text := by
  refine ⟨_, rfl, fun member => ?_, ?_⟩
  · exact absurd (List.mem_takeWhile_imp member) (by decide)
  · have behind := expect?_eq_some colon
    rw [List.cons_append, List.cons_append, List.nil_append] at behind
    rw [← behind, List.takeWhile_append_dropWhile]

theorem readSpoken?_eq_some {message : List Char} {transcript : Transcript}
    (found : readSpoken? message = some transcript) :
    (∃ clock name text, IsClock clock ∧ name ≠ [] ∧ ':' ∉ name ∧
      '\n' ∉ text ∧ message = '[' :: (clock ++ ']' :: ' ' ::
        (name ++ ':' :: ' ' :: text))) ∧
    IsTrimmed transcript.participant ∧
    ':' ∉ transcript.participant.toList ∧ IsCollapsed transcript.text ∧
    transcript.wordCount = .ofNat (wordCount transcript.text) := by
  unfold readSpoken? at found
  simp only [Option.bind_eq_bind, Option.bind_eq_some_iff, Prod.exists]
    at found
  obtain ⟨_, bracket, time, _, clockRead, rest, closing, text, colon,
    equality⟩ := found
  obtain rfl := expectChar?_eq_some bracket
  obtain ⟨clock, isClock, rfl⟩ := readClock?_eq_some clockRead
  obtain rfl := expect?_eq_some closing
  obtain ⟨name, taken, noColon, rfl⟩ := exists_name_of_colon colon
  rw [taken] at equality
  split at equality
  · cases equality
  next noFeed =>
  split at equality
  · cases equality
  next notEmpty =>
  obtain rfl := Option.some.inj equality
  rw [Bool.or_eq_true, not_or, List.isEmpty_iff, List.isEmpty_iff] at notEmpty
  obtain ⟨named, spoken⟩ := notEmpty
  refine ⟨⟨clock, name, text, isClock, ?_, noColon, ?_, by simp⟩,
    isTrimmed_ofList named, fun member => noColon ?_,
    isCollapsed_ofList spoken, ?_⟩
  · rintro rfl
    exact named rfl
  · simpa using noFeed
  · rw [String.toList_ofList] at member
    exact mem_trimLetters member
  · rw [wordCount, String.toList_ofList, words_joined]

theorem readParticipant?_eq_some {rest : List Char} {participant : String}
    (found : readParticipant? rest = some participant) :
    '\n' ∉ rest ∧ IsTrimmed participant ∧ IsOneLine participant := by
  rw [readParticipant?] at found
  simp only [Bool.or_eq_true, List.contains_iff_mem, List.isEmpty_iff] at found
  split at found
  · cases found
  next fits =>
  obtain ⟨oneLine, named⟩ := not_or.1 fits
  obtain rfl := Option.some.inj found
  refine ⟨oneLine, isTrimmed_ofList named, fun member => oneLine ?_⟩
  rw [String.toList_ofList] at member
  exact mem_trimLetters member

theorem readPresence?_eq_some {time : ClockTime} {message : List Char}
    {lifecycle : Lifecycle}
    (found : readPresence? time message = some lifecycle) :
    ∃ name, '\n' ∉ name ∧
      (message = "Participant connected: ".toList ++ name ∨
        message = "Participant disconnected: ".toList ++ name) ∧
      IsTrimmed lifecycle.participant ∧ IsOneLine lifecycle.participant := by
  unfold readPresence? at found
  split at found
  · next rest connected =>
      obtain ⟨participant, read, rfl⟩ := Option.map_eq_some_iff.1 found
      obtain ⟨oneLine, normal⟩ := readParticipant?_eq_some read
      exact ⟨rest, oneLine, .inl (expect?_eq_some connected), normal⟩
  · split at found
    · next rest disconnected =>
        obtain ⟨participant, read, rfl⟩ := Option.map_eq_some_iff.1 found
        obtain ⟨oneLine, normal⟩ := readParticipant?_eq_some read
        exact ⟨rest, oneLine, .inr (expect?_eq_some disconnected), normal⟩
    · cases found

/-- Everything that is read from a line is in normal form, and the line has the
form that goes with it. -/
theorem isNormal_readLine? {logger : String} {line : List Char}
    {entry : Recovered} (found : readLine? logger line = some entry) :
    entry.IsNormal ∧ entry.loggedAt.date.HasFourDigits ∧
      (∀ transcript, entry.record = .transcript transcript →
        IsSpokenLine logger (trimLineEnd line)) ∧
      ∀ lifecycle, entry.record = .lifecycle lifecycle →
        IsPresenceLine logger (trimLineEnd line) := by
  have timed := isTimed_readLine? found
  have kinds (lifecycle : Lifecycle)
      (is : entry.record = .lifecycle lifecycle) :=
    kind_readLine? found is
  rw [readLine?_eq, Option.bind_eq_some_iff] at found
  obtain ⟨⟨loggedAt, message⟩, note, found⟩ := found
  obtain ⟨front, isFront, line_eq, fourDigits⟩ := readNote?_eq_some note
  rw [line_eq]
  rw [readMessage?] at found
  split at found
  · next transcript spoken =>
      obtain rfl := Option.some.inj found
      obtain ⟨⟨clock, name, text, isClock, named, noColon, noFeed, rfl⟩,
        trimmed, normal⟩ := readSpoken?_eq_some spoken
      refine ⟨⟨trimmed, ?_, fun _ => CoreRecord.noConfusion⟩, fourDigits,
        fun _ _ => ?_, fun _ => CoreRecord.noConfusion⟩
      · rintro _ ⟨⟩
        exact normal
      · exact .spoken isFront isClock named noColon noFeed
  · next silent =>
      obtain ⟨lifecycle, presence, rfl⟩ := Option.map_eq_some_iff.1 found
      obtain ⟨name, noFeed, shape, trimmed, oneLine⟩ :=
        readPresence?_eq_some presence
      refine ⟨⟨trimmed, fun _ => CoreRecord.noConfusion, ?_⟩, fourDigits,
        fun _ => CoreRecord.noConfusion, fun _ _ => ?_⟩
      · rintro _ ⟨⟩
        exact ⟨oneLine, kinds lifecycle rfl, timed.presence lifecycle rfl⟩
      · rcases shape with rfl | rfl
        · exact .connected isFront noFeed
        · exact .disconnected isFront noFeed

/-! ## Reading again -/

namespace Recovered

/-- The message by which the recorder notes an entry. -/
def message (entry : Recovered) : String :=
  match entry.record with
  | .transcript transcript => spokenMessage transcript
  | .lifecycle lifecycle =>
      match lifecycle.kind with
      | .joined => connectedMessage lifecycle.participant
      | _ => disconnectedMessage lifecycle.participant

/-- The line on which the recorder writes an entry, with some fraction of a
second. -/
def line (logger : String) (fraction : List Char) (entry : Recovered) :
    List Char :=
  entry.loggedAt.letters ++
    ',' :: (fraction ++ (infoMark logger ++ entry.message.toList))

end Recovered

theorem skipFraction?_mark {fraction : List Char} (notEmpty : fraction ≠ [])
    (digits : ∀ c ∈ fraction, isDigit c = true) (logger : String)
    (rest : List Char) :
    skipFraction? (fraction ++ (infoMark logger ++ rest)) =
      some (infoMark logger ++ rest) := by
  have decimal : ∀ c ∈ fraction, isDecimalDigit c = true := fun c member =>
    isDecimalDigit_of_isDigit (digits c member)
  have skipped := @dropWhile_fraction logger fraction decimal rest
  cases fraction with
  | nil => exact absurd rfl notEmpty
  | cons c others =>
      have first := decimal c List.mem_cons_self
      rw [List.cons_append, List.dropWhile_cons_of_pos first] at skipped
      rw [List.cons_append, skipFraction?, if_pos first, skipped]

/-- The moment and the message are read from what stands on a line, whatever the
fraction of the second. -/
theorem readNote?_letters {logger : String} {moment : Moment}
    (fourDigits : moment.date.HasFourDigits) (whole : moment.time.IsWhole)
    {fraction : List Char} (notEmpty : fraction ≠ [])
    (digits : ∀ c ∈ fraction, isDigit c = true) (message : List Char) :
    readNote? logger (moment.letters ++
        ',' :: (fraction ++ (infoMark logger ++ message))) =
      some (moment, message) := by
  have parts : moment.letters ++
      ',' :: (fraction ++ (infoMark logger ++ message)) =
        moment.date.letters ++ (' ' :: (moment.time.letters ++ (',' ::
          (fraction ++ (infoMark logger ++ message))))) := by
    simp [Moment.letters]
  have mark : infoMark logger ++ message = dash ++ (logger.toList ++
      (dash ++ ("INFO".toList ++ (dash ++ message)))) := by
    simp [infoMark]
  rw [parts, readNote?]
  simp only [Date.readFront?_letters fourDigits, expectChar?_cons,
    readClock?_letters, ClockTime.wholeSecond_eq whole,
    skipFraction?_mark notEmpty digits, Option.bind_eq_bind,
    Option.bind_some]
  rw [mark]
  simp only [expect?_append, Option.bind_some]
  rfl

namespace Recovered

variable {entry : Recovered}

theorem IsNormal.endsVisibly (normal : entry.IsNormal) :
    EndsVisibly entry.message.toList := by
  obtain ⟨loggedAt, record⟩ := entry
  cases record with
  | transcript transcript =>
      obtain ⟨-, collapsed, -⟩ := normal.spoken transcript rfl
      have shape : (spokenMessage transcript).toList = _ :=
        String.toList_append
      rw [message, shape]
      exact collapsed.endsVisibly.append _
  | lifecycle lifecycle =>
      have ends := normal.named.endsVisibly
      dsimp only [message]
      split
      · rw [connectedMessage_eq]
        exact ends.append _
      · rw [disconnectedMessage_eq]
        exact ends.append _

/-- The message of an entry in normal form is read as this entry. -/
theorem IsNormal.readMessage?_message (normal : entry.IsNormal)
    (timed : entry.IsTimed) :
    readMessage? entry.loggedAt entry.message.toList = some entry := by
  obtain ⟨loggedAt, record⟩ := entry
  cases record with
  | transcript transcript =>
      obtain ⟨time, participant, text, count⟩ := transcript
      obtain ⟨noColon, collapsed, counted⟩ := normal.spoken _ rfl
      obtain rfl : count = .ofNat (wordCount text) := counted
      have whole : time.IsWhole := timed.record
      have same : collapse text = text := collapsed.collapsed
      rw [message, readMessage?, readSpoken?_spokenMessage normal.named noColon
        collapsed.isOneLine collapsed.endsVisibly]
      simp only [ClockTime.wholeSecond_eq whole, same]
      rfl
  | lifecycle lifecycle =>
      obtain ⟨time, participant, kind⟩ := lifecycle
      obtain ⟨oneLine, kinds, noted⟩ := normal.presence _ rfl
      obtain rfl : time = loggedAt.time := noted
      have named : IsTrimmed participant := normal.named
      rcases kinds with joined | left
      · obtain rfl : kind = .joined := joined
        rw [message, connectedMessage_eq]
        exact readMessage?_of_presence
          (readSpoken?_of_disagrees (by decide) participant.toList)
          (readPresence?_connected named oneLine loggedAt.time)
      · obtain rfl : kind = .left := left
        rw [message, disconnectedMessage_eq]
        exact readMessage?_of_presence
          (readSpoken?_of_disagrees (by decide) participant.toList)
          (readPresence?_disconnected named oneLine loggedAt.time)

/-- The line of an entry in normal form is read as this entry, whatever the
fraction of the second. -/
theorem IsNormal.readLine?_line (normal : entry.IsNormal)
    (timed : entry.IsTimed) (fourDigits : entry.loggedAt.date.HasFourDigits)
    (logger : String) {fraction : List Char} (notEmpty : fraction ≠ [])
    (digits : ∀ c ∈ fraction, isDigit c = true) :
    readLine? logger (entry.line logger fraction) = some entry := by
  have whole : trimLineEnd (entry.line logger fraction) =
      entry.line logger fraction := by
    have ends := normal.endsVisibly.trimLineEnd (entry.loggedAt.letters ++
      ',' :: (fraction ++ infoMark logger))
    simpa only [line, List.append_assoc, List.cons_append] using ends
  rw [readLine?_eq, whole, line,
    readNote?_letters fourDigits timed.logged notEmpty digits]
  exact normal.readMessage?_message timed

end Recovered

/-- Entries are read in normal form, from lines of the form that goes with them,
and are read again from the lines on which the recorder writes them. No line has
the forms of both kinds. -/
theorem read_entries_are_normal (logger : String) :
    (∀ line entry, readLine? logger line = some entry →
      entry.IsNormal ∧
      (∀ fraction, fraction ≠ [] → (∀ c ∈ fraction, isDigit c = true) →
        readLine? logger (entry.line logger fraction) = some entry) ∧
      (∀ transcript, entry.record = .transcript transcript →
        IsSpokenLine logger (trimLineEnd line)) ∧
      ∀ lifecycle, entry.record = .lifecycle lifecycle →
        IsPresenceLine logger (trimLineEnd line)) ∧
    ∀ line, ¬ (IsSpokenLine logger line ∧ IsPresenceLine logger line) := by
  refine ⟨fun line entry found => ?_, fun line both =>
    both.1.not_isPresenceLine both.2⟩
  obtain ⟨normal, fourDigits, spoken, presence⟩ := isNormal_readLine? found
  exact ⟨normal, fun fraction notEmpty digits =>
    normal.readLine?_line (isTimed_readLine? found) fourDigits logger notEmpty
      digits, spoken, presence⟩

/-- A line with a leap second, a digit of another script in the fraction, and
blank characters around the name and in the text. -/
def leapSecondLine : List Char :=
  ("2016-12-31 23:59:60,٣7 - agent - INFO - " ++
    "[23:59:60]  Ann : so  it:is ").toList

/-- A line about somebody whose name has a colon. -/
def connectedLine : List Char :=
  ("2016-12-31 23:59:59,1 - agent - INFO - " ++
    "Participant connected:  Ann: B \r").toList

theorem read_sample_lines :
    (∃ loggedAt transcript,
      readLine? "agent" leapSecondLine =
        some ⟨loggedAt, .transcript transcript⟩ ∧
      transcript.participant = "Ann" ∧
      IsCollapsed transcript.text ∧
      IsSpokenLine "agent" (trimLineEnd leapSecondLine)) ∧
    ∃ loggedAt lifecycle,
      readLine? "agent" connectedLine =
        some ⟨loggedAt, .lifecycle lifecycle⟩ ∧
      lifecycle.participant = "Ann: B" ∧
      readLine? "agent" (Recovered.line "agent" ['0']
        ⟨loggedAt, .lifecycle lifecycle⟩) =
          some ⟨loggedAt, .lifecycle lifecycle⟩ ∧
      IsPresenceLine "agent" (trimLineEnd connectedLine) := by
  obtain ⟨reading, -⟩ := read_entries_are_normal "agent"
  constructor
  · have read : (readLine? "agent" leapSecondLine).any (fun entry =>
        match entry.record with
        | .transcript transcript => decide (transcript.participant = "Ann")
        | .lifecycle _ => false) = true := by
      decide +kernel
    obtain ⟨⟨loggedAt, record⟩, found, participant⟩ :=
      (Option.any_eq_true _ _).1 read
    cases record with
    | lifecycle => cases participant
    | transcript transcript =>
        obtain ⟨normal, -, spoken, -⟩ := reading _ _ found
        exact ⟨loggedAt, transcript, found, of_decide_eq_true participant,
          (normal.spoken _ rfl).2.1, spoken _ rfl⟩
  · have read : (readLine? "agent" connectedLine).any (fun entry =>
        match entry.record with
        | .transcript _ => false
        | .lifecycle lifecycle =>
            decide (lifecycle.participant = "Ann: B")) = true := by
      decide +kernel
    obtain ⟨⟨loggedAt, record⟩, found, participant⟩ :=
      (Option.any_eq_true _ _).1 read
    cases record with
    | transcript => cases participant
    | lifecycle lifecycle =>
        obtain ⟨-, again, -, presence⟩ := reading _ _ found
        refine ⟨loggedAt, lifecycle, found, of_decide_eq_true participant,
          again ['0'] (List.cons_ne_nil _ _) fun c member => ?_,
          presence _ rfl⟩
        rw [List.mem_singleton.1 member]
        decide

end MeetingLog.Trace
