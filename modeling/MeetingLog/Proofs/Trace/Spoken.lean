import MeetingLog.Proofs.Text.Cuts
import MeetingLog.Proofs.Trace.Normal

/-!
# Lines of what was said

What somebody says goes into the trace as it is, and so does the name. The first
line of such a note begins with what the recorder writes, and tells at most of
something said. What stands behind a line feed is a line of its own, which is
read like any other line.
-/

namespace MeetingLog.Trace

open MeetingLog.Calendar
open MeetingLog.Text

/-- The lines of a message behind its first line feed, as they are written. -/
def laterLines (message : String) : List (List Char) :=
  (pieces (writeMessage message)).tail

theorem laterLines_of_isOneLine {message : String}
    (oneLine : IsOneLine message) : laterLines message = [] := by
  rw [laterLines, pieces_eq_splitOn,
    List.splitOn_eq_singleton (feed_not_mem_writeMessage oneLine)]
  rfl

/-- The name to which something said is attributed when its line is read: what
is written of the name up to the first colon, without the blank characters
around it. -/
def shownName (identity : String) : String :=
  String.ofList <| trimLetters <|
    (writeMessage identity).takeWhile fun c => c ≠ ':'

/-! ## Names -/

theorem writeLetter_of_all {letters : List Char}
    (all : letters.all (fun c => writeLetter c = [c]) = true) {letter : Char}
    (member : letter ∈ letters) : writeLetter letter = [letter] :=
  of_decide_eq_true (List.all_eq_true.1 all letter member)

theorem all_hexByte : ∀ number < 256,
    (hexByte number).all (fun c => writeLetter c = [c]) = true := by
  decide +kernel

/-- What is written of a character is not written as an escape again. -/
theorem writeLetter_of_mem_writeLetter {c letter : Char}
    (member : letter ∈ writeLetter c) : writeLetter letter = [letter] := by
  rw [writeLetter] at member
  split at member
  · next special =>
      rcases List.mem_append.1 member with mark | digit
      · exact writeLetter_of_all (by decide) mark
      · exact writeLetter_of_all (all_hexByte c.toNat (by omega)) digit
  · next notSpecial =>
      split at member
      · next special =>
          rcases List.mem_append.1 member with front | mark
          · rcases List.mem_append.1 front with mark | digit
            · exact writeLetter_of_all (by decide) mark
            · exact writeLetter_of_all (all_hexByte c.toNat (by omega)) digit
          · exact writeLetter_of_all (by decide) mark
      · next notSpecialToo =>
          obtain rfl := List.mem_singleton.1 member
          rw [writeLetter]
          simp only [if_neg notSpecial, if_neg notSpecialToo]

theorem writeLetter_of_mem_writeMessage {message : String} {letter : Char}
    (member : letter ∈ writeMessage message) :
    writeLetter letter = [letter] := by
  obtain ⟨c, -, inLetter⟩ := List.mem_flatMap.1 member
  exact writeLetter_of_mem_writeLetter inLetter

theorem mem_shownName {identity : String} {c : Char}
    (member : c ∈ (shownName identity).toList) :
    c ≠ ':' ∧ writeLetter c = [c] := by
  rw [shownName, String.toList_ofList] at member
  have taken := mem_trimLetters member
  have notColon := List.mem_takeWhile_imp taken
  exact ⟨of_decide_eq_true notColon, writeLetter_of_mem_writeMessage
    ((List.takeWhile_prefix _).subset taken)⟩

theorem trim_shownName (identity : String) :
    trim (shownName identity) = shownName identity := by
  rw [trim, shownName, String.toList_ofList, trimLetters_trimLetters]

/-- A name is attributed as it is if and only if it is not surrounded by blank
characters, and no character in it is a colon or written as an escape. -/
theorem shownName_eq_self_iff (identity : String) :
    shownName identity = identity ↔
      trim identity = identity ∧ ':' ∉ identity.toList ∧
        ∀ c ∈ identity.toList, writeLetter c = [c] := by
  constructor
  · intro same
    rw [← same]
    exact ⟨trim_shownName identity, fun member => (mem_shownName member).1 rfl,
      fun c member => (mem_shownName member).2⟩
  · rintro ⟨trimmed, noColon, plain⟩
    have all : identity.toList.takeWhile (fun c => decide (c ≠ ':')) =
        identity.toList := by
      rw [List.takeWhile_eq_self_iff]
      intro c member
      refine decide_eq_true ?_
      rintro rfl
      exact noColon member
    rw [shownName, writeMessage_of_forall plain, all]
    exact trimmed

/-! ## Fronts -/

theorem yearLetters_of_sign {year : Int} (other : ¬ (0 ≤ year ∧ year < 10000)) :
    ∃ sign rest, isDecimalDigit sign = false ∧
      Date.yearLetters year = sign :: rest := by
  simp only [Date.yearLetters]
  by_cases negative : year < 0
  · rw [if_pos negative]
    exact ⟨'-', _, by decide, rfl⟩
  · have large : ¬ year.natAbs < 10000 := by omega
    rw [if_neg negative, if_neg large]
    exact ⟨'+', _, by decide, rfl⟩

/-- No front of a line is written in a year that has not four digits. -/
theorem readNote?_of_not_hasFourDigits {logger : String} {time : Moment}
    {level : Level} (other : ¬ time.date.HasFourDigits)
    (rest : List Char) :
    readNote? logger (lineFront logger time level ++ rest) = none := by
  cases found : readNote? logger (lineFront logger time level ++ rest) with
  | none => rfl
  | some note =>
      obtain ⟨sign, more, notDigit, year⟩ := yearLetters_of_sign other
      obtain ⟨front, isFront, shape, -⟩ := readNote?_eq_some found
      cases isFront with
      | front isDay isClock notEmpty digits =>
      cases isDay with
      | @day years month day isYear isMonth isDate =>
      obtain ⟨length, allDigits⟩ := isYear
      cases years with
      | nil => cases length
      | cons first others =>
          have heads := congrArg List.head? shape
          have same : sign = first := by
            simpa [lineFront, Moment.letters, Date.letters, year] using heads
          have digit := allDigits first List.mem_cons_self
          rw [← same, notDigit] at digit
          cases digit

/-- A line that is read holds the name of the logger. -/
theorem feed_not_mem_logger {logger : String} {line : List Char}
    {entry : Recovered} (found : readLine? logger line = some entry)
    (noFeed : '\n' ∉ line) : '\n' ∉ logger.toList := by
  rw [readLine?_eq, Option.bind_eq_some_iff] at found
  obtain ⟨note, read, -⟩ := found
  obtain ⟨front, isFront, shape, -⟩ := readNote?_eq_some read
  intro member
  have begins := trimLineEnd_prefix line
  refine noFeed (begins.subset ?_)
  rw [shape]
  obtain ⟨-, -, -, -⟩ := isFront
  simp [infoMark, member]

/-- The first line of a note tells of a record only if the note has the level
`info`. -/
theorem readLine?_first {logger : String} {time : Moment} {note : Note}
    {first : List Char} {entry : Recovered}
    (found : readLine? logger
      (lineFront logger time note.level ++ [' '] ++ first) = some entry) :
    note.level = .info ∧
      readMessage? time.wholeSecond (trimLineEnd first) = some entry := by
  rw [readLine?_eq, trimLineEnd_append (by decide) (by decide)] at found
  by_cases fourDigits : time.date.HasFourDigits
  · rw [readNote?_front fourDigits] at found
    split at found
    · next level => exact ⟨level, found⟩
    · cases found
  · rw [List.append_assoc, readNote?_of_not_hasFourDigits fourDigits] at found
    cases found

/-! ## Speech -/

variable {transcript : Transcript} {loggedAt : Moment} {entry : Recovered}

theorem takeWhile_append_colon (name rest : List Char) :
    (name ++ ':' :: rest).takeWhile (fun c => decide (c ≠ ':')) =
      name.takeWhile fun c => decide (c ≠ ':') := by
  rw [List.takeWhile_append]
  split
  · next whole =>
      rw [List.takeWhile_cons_of_neg (by decide), List.append_nil]
      exact ((List.takeWhile_prefix _).eq_of_length whole).symm
  · rfl

theorem writeMessage_spokenMessage (transcript : Transcript) :
    writeMessage (spokenMessage transcript) =
      '[' :: transcript.time.letters ++ [']'] ++ [' '] ++
        (writeMessage transcript.participant ++
          ':' :: ' ' :: writeMessage transcript.text) := by
  have opening : writeMessage "[" = ['['] := by decide
  have closing : writeMessage "] " = [']', ' '] := by decide
  have colon : writeMessage ": " = [':', ' '] := by decide
  rw [spokenMessage]
  simp only [writeMessage_append, opening, closing, colon,
    writeMessage_of_isPlain (isPlain_write transcript.time)]
  simp [ClockTime.write]

/-- A message that begins with a bracket tells of something said, if of
anything. -/
theorem exists_transcript {message : List Char}
    (found : readMessage? loggedAt ('[' :: message) = some entry) :
    ∃ told, readSpoken? ('[' :: message) = some told ∧
      entry = ⟨loggedAt, .transcript told⟩ := by
  have aside {expected : List Char}
      (different : disagrees expected ['['] = true) :
      expect? expected ('[' :: message) = none :=
    expect?_of_disagrees different message
  unfold readMessage? at found
  split at found
  · next told spoken =>
      exact ⟨told, spoken, (Option.some.inj found).symm⟩
  · have connected : expect? (connectedMessage "").toList
        ('[' :: message) = none := by
      rw [connectedMessage_eq]
      exact aside (by decide)
    have disconnected : expect? (disconnectedMessage "").toList
        ('[' :: message) = none := by
      rw [disconnectedMessage_eq]
      exact aside (by decide)
    rw [readPresence?, connected, disconnected] at found
    cases found

/-- The time that stands in the brackets is that of what was said, and the name
ends at the first colon. -/
theorem readSpoken?_clock {time : ClockTime} {rest : List Char}
    (found : readSpoken? ('[' :: (time.letters ++ ']' :: ' ' :: rest)) =
      some transcript) :
    transcript.time = time.wholeSecond ∧
      ∃ name text, ':' ∉ name ∧ rest = name ++ ':' :: ' ' :: text ∧
        transcript.participant = String.ofList (trimLetters name) := by
  have bracket (others : List Char) :
      expect? [']', ' '] (']' :: ' ' :: others) = some others :=
    expect?_append [']', ' '] others
  unfold readSpoken? at found
  simp only [expectChar?_cons, readClock?_letters, bracket,
    Option.bind_eq_bind, Option.bind_some, Option.bind_eq_some_iff] at found
  obtain ⟨text, colon, equality⟩ := found
  obtain ⟨name, taken, noColon, rfl⟩ := exists_name_of_colon colon
  rw [taken] at equality
  split at equality
  · cases equality
  split at equality
  · cases equality
  obtain rfl := Option.some.inj equality
  exact ⟨rfl, name, text, noColon, rfl, rfl⟩

/-- The first line of a note about something said tells, if of anything, that it
was said at the time of the note, by somebody with the name that is shown. -/
theorem readMessage?_first {first : List Char} {later : List (List Char)}
    (cut : pieces (writeMessage (spokenMessage transcript)) = first :: later)
    (found : readMessage? loggedAt (trimLineEnd first) = some entry) :
    ∃ told, entry = ⟨loggedAt, .transcript told⟩ ∧
      told.time = transcript.time.wholeSecond ∧
      told.participant = shownName transcript.participant := by
  have noFeed : '\n' ∉ '[' :: transcript.time.letters ++ [']'] ++ [' '] := by
    simp [ClockTime.feed_not_mem_letters]
  rw [writeMessage_spokenMessage] at cut
  generalize behind : writeMessage transcript.participant ++
    ':' :: ' ' :: writeMessage transcript.text = message at cut
  cases inner : message.splitOn '\n' with
  | nil => exact absurd inner (List.splitOn_ne_nil _ message)
  | cons piece others =>
      rw [pieces_eq_splitOn, splitOn_append noFeed inner] at cut
      obtain ⟨rfl, -⟩ := List.cons.inj cut
      have trimmed := trimLineEnd_prefix piece
      have begins := trimmed.trans (prefix_of_splitOn inner)
      rw [trimLineEnd_append (by decide) (by decide)] at found
      generalize trimLineEnd piece = line at found begins
      have shape : '[' :: transcript.time.letters ++ [']'] ++ [' '] ++ line =
          '[' :: (transcript.time.letters ++ ']' :: ' ' :: line) := by
        simp
      rw [shape] at found
      obtain ⟨told, spoken, rfl⟩ := exists_transcript found
      obtain ⟨time, name, text, noColon, rfl, participant⟩ :=
        readSpoken?_clock spoken
      refine ⟨told, rfl, time, ?_⟩
      obtain ⟨rest, whole⟩ := begins
      have taken := takeWhile_append_colon
        (writeMessage transcript.participant)
        (' ' :: writeMessage transcript.text)
      rw [behind, ← whole, List.append_assoc, List.cons_append,
        (takeWhile_name noColon _).1] at taken
      rw [participant, taken]
      rfl

/-! ## Notes of any kind -/

/-- The records that are read from the lines of some entries, line by line. -/
def readBack (logger : String) (limit : Level) (entries : List Entry) :
    List Recovered :=
  (writtenLines logger limit entries).filterMap fun line =>
    readLine? logger line.toList

theorem readBack_eq (logger : String) (limit : Level)
    (entries : List Entry) :
    readBack logger limit entries =
      (entries.filter fun entry => limit.allows entry.note.level).flatMap
        fun entry =>
          (pieces (lineLetters logger entry.time entry.note)).filterMap
            (readLine? logger) := by
  rw [readBack, writtenLines, List.filterMap_flatMap]
  congr 1
  funext entry
  rw [List.filterMap_map]
  refine List.filterMap_congr fun piece _ => ?_
  rw [Function.comp_apply, String.toList_ofList]

/-- The lines of a note are the first one, with the front, and those behind the
line feeds of the message. -/
theorem pieces_lineLetters {logger : String} (oneLine : IsOneLine logger)
    (time : Moment) (note : Note) :
    ∃ first, pieces (writeMessage note.message) =
        first :: laterLines note.message ∧
      pieces (lineLetters logger time note) =
        (lineFront logger time note.level ++ [' '] ++ first) ::
          laterLines note.message := by
  have empty : IsOneLine "" := nofun
  have noFeed : '\n' ∉ lineFront logger time note.level ++ [' '] := by
    have front : '\n' ∉ lineLetters logger time ⟨note.level, ""⟩ :=
      feed_not_mem_lineLetters oneLine empty time
    rw [lineLetters_eq] at front
    simpa [writeMessage] using front
  cases cut : pieces (writeMessage note.message) with
  | nil => exact absurd cut (pieces_ne_nil _)
  | cons first later =>
      have later_eq : laterLines note.message = later := by
        rw [laterLines, cut]
        rfl
      rw [later_eq]
      refine ⟨first, rfl, ?_⟩
      rw [pieces_eq_splitOn] at cut
      rw [lineLetters_eq, pieces_eq_splitOn, splitOn_append noFeed cut]

/-- A line of a note that tells of a record stands behind a line feed of the
message, or is the first line of a note of the level `info`. -/
theorem readLine?_piece {logger : String} {time : Moment} {note : Note}
    {piece : List Char}
    (member : piece ∈ pieces (lineLetters logger time note))
    (found : readLine? logger piece = some entry) :
    piece ∈ laterLines note.message ∨
      note.level = .info ∧ ∃ first,
        pieces (writeMessage note.message) =
          first :: laterLines note.message ∧
        readMessage? time.wholeSecond (trimLineEnd first) = some entry := by
  have noFeed : '\n' ∉ piece := by
    rw [pieces_eq_splitOn] at member
    exact mark_not_mem_splitOn member
  obtain ⟨first, cut, lines⟩ :=
    pieces_lineLetters (feed_not_mem_logger found noFeed) time note
  rw [lines] at member
  rcases List.mem_cons.1 member with rfl | later
  · obtain ⟨level, read⟩ := readLine?_first found
    exact .inr ⟨level, first, cut, read⟩
  · exact .inl later

/-- A note on one line tells of one record at most, and of none unless it has
the level `info`. -/
theorem length_filterMap_pieces_le (logger : String) (time : Moment)
    {note : Note} (oneLine : IsOneLine note.message) :
    ((pieces (lineLetters logger time note)).filterMap
      (readLine? logger)).length ≤ if note.level = .info then 1 else 0 := by
  cases shape : (pieces (lineLetters logger time note)).filterMap
      (readLine? logger) with
  | nil => exact Nat.zero_le _
  | cons entry others =>
      have member : entry ∈ (pieces (lineLetters logger time note)).filterMap
          (readLine? logger) := by
        rw [shape]
        exact List.mem_cons_self
      obtain ⟨piece, inPieces, found⟩ := List.mem_filterMap.1 member
      have noLater := laterLines_of_isOneLine oneLine
      rcases readLine?_piece inPieces found with later | ⟨level, -⟩
      · rw [noLater] at later
        cases later
      · have noFeed : '\n' ∉ piece := by
          rw [pieces_eq_splitOn] at inPieces
          exact mark_not_mem_splitOn inPieces
        obtain ⟨first, -, lines⟩ :=
          pieces_lineLetters (feed_not_mem_logger found noFeed) time note
        rw [if_pos level, ← shape, lines, noLater]
        exact List.length_filterMap_le ..

theorem length_readBack_le (logger : String) (limit : Level)
    {entries : List Entry}
    (oneLine : ∀ entry ∈ entries, IsOneLine entry.note.message) :
    (readBack logger limit entries).length ≤
      entries.countP fun entry => entry.note.level = .info := by
  rw [readBack_eq]
  induction entries with
  | nil => exact Nat.le_refl 0
  | cons entry others inductionHypothesis =>
      have later := inductionHypothesis fun other member =>
        oneLine other (List.mem_cons_of_mem _ member)
      have first := length_filterMap_pieces_le logger entry.time
        (oneLine entry List.mem_cons_self)
      rw [List.countP_cons, List.filter_cons]
      simp only [decide_eq_true_iff]
      split
      · rw [List.flatMap_cons, List.length_append]
        omega
      · omega

end MeetingLog.Trace
