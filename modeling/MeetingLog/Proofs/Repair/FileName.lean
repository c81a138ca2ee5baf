import MeetingLog.Repair.FileName
import MeetingLog.Store.Basic
import MeetingLog.Proofs.Trace.Grammar

/-!
# File names read back

The name of a log is read as the room and the date for which it was made,
whatever the room is called and however often the log was repaired. Nothing
else is read: the date, the time and the marks are looked for from the end of
the name, where they have fixed lengths, and the room is what remains.
-/

namespace MeetingLog

open MeetingLog.Calendar
open MeetingLog.Text
open MeetingLog.Trace

/-! ## Marks -/

/-- The mark of a repaired log a number of times. -/
def marks (count : Nat) : String :=
  String.join (List.replicate count repairMark)

theorem reverse_marks (count : Nat) :
    (marks count).toList.reverse =
      (List.replicate count repairMark.toList.reverse).flatten := by
  induction count with
  | zero => rfl
  | succ count inductionHypothesis =>
      have last : marks (count + 1) = marks count ++ repairMark := by
        rw [marks, List.replicate_succ', String.join_append, String.join_cons,
          String.join_nil, String.append_empty, marks]
      rw [last, String.toList_append, List.reverse_append,
        inductionHypothesis, List.replicate_succ, List.flatten_cons]

/-- All marks are dropped up to what is no mark. -/
theorem dropMarks_append {rest : List Char}
    (unmarked : expect? repairMark.toList.reverse rest = none) (count : Nat) :
    ∀ {bound}, count ≤ bound →
      dropMarks bound
        ((List.replicate count repairMark.toList.reverse).flatten ++ rest) =
          rest := by
  induction count with
  | zero =>
      intro bound _
      cases bound with
      | zero => rfl
      | succ bound =>
          rw [List.replicate_zero, List.flatten_nil, List.nil_append,
            dropMarks, unmarked]
  | succ count inductionHypothesis =>
      intro bound enough
      cases bound with
      | zero => exact absurd enough (Nat.not_succ_le_zero count)
      | succ bound =>
          rw [List.replicate_succ, List.flatten_cons, List.append_assoc,
            dropMarks, expect?_append]
          exact inductionHypothesis (Nat.le_of_succ_le_succ enough)

/-- What is dropped are marks. -/
theorem exists_marks (bound : Nat) :
    ∀ reversed, ∃ count, reversed =
      (List.replicate count repairMark.toList.reverse).flatten ++
        dropMarks bound reversed := by
  induction bound with
  | zero => exact fun reversed => ⟨0, rfl⟩
  | succ bound inductionHypothesis =>
      intro reversed
      rw [dropMarks]
      cases found : expect? repairMark.toList.reverse reversed with
      | none => exact ⟨0, rfl⟩
      | some rest =>
          obtain ⟨count, equality⟩ := inductionHypothesis rest
          refine ⟨count + 1, ?_⟩
          rw [List.replicate_succ, List.flatten_cons, List.append_assoc]
          dsimp only
          rw [← equality]
          exact expect?_eq_some found

/-- A name that ends with a digit ends without a mark. -/
theorem expect?_mark_of_digit {c : Char} (digit : isDecimalDigit c = true)
    (rest : List Char) :
    expect? repairMark.toList.reverse (c :: rest) = none := by
  have last : repairMark.toList.reverse = 'D' :: "ERIAPER_".toList := by
    decide
  have different : c ≠ 'D' := by
    rintro rfl
    exact absurd digit (by decide)
  rw [last, expect?, expectChar?, if_neg different]
  rfl

/-! ## Date and time -/

theorem takeScriptDigits?_eq_some_iff {count : Nat}
    {letters digits rest : List Char} :
    takeScriptDigits? count letters = some (digits, rest) ↔
      AreDigits count digits ∧ letters = digits ++ rest := by
  rw [takeScriptDigits?, AreDigits]
  constructor
  · intro found
    split at found
    · next fits =>
        obtain ⟨rfl, rfl⟩ := Prod.mk.inj (Option.some.inj found)
        rw [Bool.and_eq_true, decide_eq_true_iff, List.all_eq_true] at fits
        exact ⟨fits, (List.take_append_drop _ _).symm⟩
    · cases found
  · rintro ⟨⟨rfl, all⟩, rfl⟩
    rw [List.take_left, List.drop_left, if_pos]
    rw [Bool.and_eq_true, decide_eq_true_iff, List.all_eq_true]
    exact ⟨rfl, all⟩

theorem takeScriptDigits?_append {count : Nat} {digits : List Char}
    (areDigits : AreDigits count digits) (rest : List Char) :
    takeScriptDigits? count (digits ++ rest) = some (digits, rest) :=
  takeScriptDigits?_eq_some_iff.2 ⟨areDigits, rfl⟩

theorem Trace.AreDigits.reverse {count : Nat} {digits : List Char}
    (areDigits : AreDigits count digits) : AreDigits count digits.reverse :=
  ⟨digits.length_reverse.trans areDigits.1, fun c member =>
    areDigits.2 c (List.mem_reverse.1 member)⟩

/-! ## Names -/

/-- The name of a log with its date and time written in some way, and marks
behind it. -/
def nameOf (room : String) (date clock : List Char) (count : Nat) : String :=
  "protocol_" ++ room ++ "_" ++ String.ofList date ++ "_" ++
    String.ofList clock ++ marks count

/-- From its end, behind the marks, a name has the time, the date and the
room. -/
theorem exists_toList_nameOf (room : String) (date clock : List Char)
    (count : Nat) :
    ∃ rest, (nameOf room date clock count).toList =
        "protocol_".toList ++ rest ∧
      rest.reverse =
        (List.replicate count repairMark.toList.reverse).flatten ++
          (clock.reverse ++ '_' ::
            (date.reverse ++ '_' :: room.toList.reverse)) := by
  refine ⟨room.toList ++ '_' :: (date ++ '_' ::
    (clock ++ (marks count).toList)), by simp [nameOf], ?_⟩
  simp [reverse_marks]

theorem eq_nameOf {stem room : String} {date clock rest : List Char}
    {count : Nat} (front : stem.toList = "protocol_".toList ++ rest)
    (back : rest.reverse =
      (List.replicate count repairMark.toList.reverse).flatten ++
        (clock.reverse ++ '_' ::
          (date.reverse ++ '_' :: room.toList.reverse))) :
    stem = nameOf room date clock count := by
  obtain ⟨restToo, frontToo, backToo⟩ :=
    exists_toList_nameOf room date clock count
  rw [← back, List.reverse_inj] at backToo
  exact String.toList_inj.1 (by rw [front, frontToo, backToo])

/-- Of the names with a date and a time every one is read, if the room has a
name on one line. -/
theorem readStem?_nameOf {room : String} {date : Date} {clock : List Char}
    (notEmpty : room ≠ "") (oneLine : IsOneLine room)
    (fourDigits : date.HasFourDigits) (digits : AreDigits 6 clock)
    (count : Nat) :
    readStem? (nameOf room date.compactLetters clock count) =
      some (room, date) := by
  obtain ⟨rest, front, back⟩ :=
    exists_toList_nameOf room date.compactLetters clock count
  have enough : count ≤ rest.length := by
    have length := congrArg List.length back
    simp [repairMark] at length
    omega
  have unmarked : expect? repairMark.toList.reverse (clock.reverse ++ '_' ::
      (date.compactLetters.reverse ++ '_' :: room.toList.reverse)) = none := by
    cases shape : clock.reverse with
    | nil =>
        have length := digits.reverse.1
        rw [shape] at length
        cases length
    | cons c others =>
        refine expect?_mark_of_digit (digits.reverse.2 c ?_) _
        rw [shape]
        exact List.mem_cons_self
  have dropped := dropMarks_append unmarked count enough
  rw [← back] at dropped
  obtain ⟨length, all⟩ := Date.compactLetters_digits fourDigits
  have dateDigits : AreDigits 8 date.compactLetters :=
    ⟨length, fun c member => isDecimalDigit_of_isDigit (all c member)⟩
  have named : (room.toList.reverse.isEmpty ||
      room.toList.reverse.contains '\n') = false := by
    have noFeed : '\n' ∉ room.toList := oneLine
    simp [notEmpty, noFeed]
  rw [readStem?, front, expect?_append]
  simp only [Option.bind_eq_bind, Option.bind_some, dropped,
    takeScriptDigits?_append digits.reverse,
    takeScriptDigits?_append dateDigits.reverse, expectChar?_cons, named,
    Bool.false_eq_true, if_false, List.reverse_reverse, String.ofList_toList,
    Date.readCompact?_eq_some_iff.2 ⟨fourDigits, rfl⟩]
  rfl

/-- What is read is a name with a date and a time. -/
theorem readStem?_eq_some {stem room : String} {date : Date}
    (found : readStem? stem = some (room, date)) :
    room ≠ "" ∧ IsOneLine room ∧ date.HasFourDigits ∧
      ∃ clock count, AreDigits 6 clock ∧
        stem = nameOf room date.compactLetters clock count := by
  unfold readStem? at found
  simp only [Option.bind_eq_bind, Option.bind_eq_some_iff, Prod.exists]
    at found
  obtain ⟨rest, front, clock, _, time, _, line, digits, _, day, room', lineToo,
    last⟩ := found
  obtain ⟨count, back⟩ := exists_marks rest.length rest.reverse
  obtain ⟨clockDigits, dropped⟩ := takeScriptDigits?_eq_some_iff.1 time
  obtain rfl := expectChar?_eq_some line
  obtain ⟨-, rfl⟩ := takeScriptDigits?_eq_some_iff.1 day
  obtain rfl := expectChar?_eq_some lineToo
  split at last
  · cases last
  · next named =>
      obtain ⟨read, compact, equality⟩ := Option.bind_eq_some_iff.1 last
      obtain ⟨rfl, rfl⟩ := Prod.mk.inj (Option.some.inj equality)
      obtain ⟨fourDigits, compactSame⟩ :=
        Date.readCompact?_eq_some_iff.1 compact
      rw [Bool.or_eq_true, not_or] at named
      refine ⟨fun empty => named.1 ?_, fun member => named.2 ?_, fourDigits,
        clock.reverse, count, clockDigits.reverse,
        eq_nameOf (expect?_eq_some front) ?_⟩
      · simpa using empty
      · simpa using member
      · rw [back, dropped, ← compactSame]
        simp

theorem baseName_marks (room : String) (started : Moment) (count : Nat) :
    ∃ clock, AreDigits 6 clock ∧ baseName room started ++ marks count =
      nameOf room started.date.compactLetters clock count := by
  refine ⟨fixedDigits 2 started.time.hour.val ++
    fixedDigits 2 started.time.minute.val ++
      fixedDigits 2 started.time.second.val, ⟨?_, fun c member => ?_⟩, rfl⟩
  · simp only [List.length_append, length_fixedDigits]
  · simp only [List.mem_append] at member
    rcases member with (hour | minute) | second
    · exact (areDigits_fixedDigits 2 _).2 c hour
    · exact (areDigits_fixedDigits 2 _).2 c minute
    · exact (areDigits_fixedDigits 2 _).2 c second

/-- From the name of a log the room and the date are read for which it was made,
whatever the room is called, as long as it has a name on one line, and however
often the log was repaired. If a room and a date are read from a name, it is
made of them, the date with eight digits, of six digits of any script, and of
marks. -/
theorem stem_tells_room_and_date :
    (∀ (room : String) (started : Moment) (count : Nat), room ≠ "" →
      IsOneLine room → started.date.HasFourDigits →
        readStem? (baseName room started ++ marks count) =
          some (room, started.date)) ∧
    ∀ (stem room : String) (date : Date),
      readStem? stem = some (room, date) →
        room ≠ "" ∧ IsOneLine room ∧
          (date.compactLetters.length = 8 ∧
            ∀ c ∈ date.compactLetters, isDigit c = true) ∧
          ∃ clock count, AreDigits 6 clock ∧
            stem = "protocol_" ++ room ++ "_" ++
              String.ofList date.compactLetters ++ "_" ++
                String.ofList clock ++ marks count := by
  constructor
  · intro room started count notEmpty oneLine fourDigits
    obtain ⟨clock, digits, equality⟩ := baseName_marks room started count
    rw [equality]
    exact readStem?_nameOf notEmpty oneLine fourDigits digits count
  · intro stem room date found
    obtain ⟨notEmpty, oneLine, fourDigits, clock, count, digits, equality⟩ :=
      readStem?_eq_some found
    exact ⟨notEmpty, oneLine, Date.compactLetters_digits fourDigits, clock,
      count, digits, equality⟩

/-- A room with the name of a repaired log. -/
def imitatingRoom : String :=
  "protocol_standup_20240101_101010_REPAIRED"

/-- The last leap second of a year with four digits. -/
def lastLeapSecond : Moment :=
  ⟨⟨9999, .last 11, .last 30, by decide⟩,
    { ClockTime.endOfDay with second := .last 60 }⟩

theorem stem_of_imitatingRoom :
    let stem := baseName imitatingRoom lastLeapSecond ++ marks 2
    imitatingRoom ≠ "" ∧ IsOneLine imitatingRoom ∧
      lastLeapSecond.date.HasFourDigits ∧
      readStem? stem = some (imitatingRoom, lastLeapSecond.date) ∧
      ∃ clock count, AreDigits 6 clock ∧
        stem = "protocol_" ++ imitatingRoom ++ "_" ++
          String.ofList lastLeapSecond.date.compactLetters ++ "_" ++
            String.ofList clock ++ marks count := by
  intro stem
  obtain ⟨reads, only⟩ := stem_tells_room_and_date
  have notEmpty : imitatingRoom ≠ "" := by decide
  have oneLine : IsOneLine imitatingRoom := by decide
  have fourDigits : lastLeapSecond.date.HasFourDigits := by decide
  have read := reads imitatingRoom lastLeapSecond 2 notEmpty oneLine fourDigits
  exact ⟨notEmpty, oneLine, fourDigits, read, (only _ _ _ read).2.2.2⟩

end MeetingLog
