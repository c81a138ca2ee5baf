import MeetingLog.Proofs.Trace.Message
import MeetingLog.Proofs.Trace.Recovery

/-!
# The two kinds of lines that tell of records

A trace line tells of a record only if it has one of two forms: somebody is
quoted, or somebody is connected or disconnected. The forms allow digits of any
script, of which only the ASCII digits are read. No line has both forms.
-/

namespace MeetingLog.Trace

open MeetingLog.Calendar
open MeetingLog.Text

/-! ## Forms -/

/-- `AreDigits count letters` means that the letters are as many digits of any
script. -/
def AreDigits (count : Nat) (letters : List Char) : Prop :=
  letters.length = count ∧ ∀ c ∈ letters, isDecimalDigit c = true

/-- `IsDay letters` means that the letters have the form of a date. -/
inductive IsDay : List Char → Prop where
  | day {year month day : List Char} :
      AreDigits 4 year → AreDigits 2 month → AreDigits 2 day →
      IsDay (year ++ '-' :: (month ++ '-' :: day))

/-- `IsClock letters` means that the letters have the form of a time of day. -/
inductive IsClock : List Char → Prop where
  | clock {hour minute second : List Char} :
      AreDigits 2 hour → AreDigits 2 minute → AreDigits 2 second →
      IsClock (hour ++ ':' :: (minute ++ ':' :: second))

/-- What stands between the fraction of a second and the message of a note of
the level `info`. -/
def infoMark (logger : String) : List Char :=
  dash ++ (logger.toList ++ (dash ++ ("INFO".toList ++ dash)))

/-- `IsFront logger front` means that `front` has the form of what stands in
front of the message of a note of the level `info`. -/
inductive IsFront (logger : String) : List Char → Prop where
  | front {day clock fraction : List Char} :
      IsDay day → IsClock clock → fraction ≠ [] →
      (∀ c ∈ fraction, isDecimalDigit c = true) →
      IsFront logger
        (day ++ ' ' :: (clock ++ ',' :: (fraction ++ infoMark logger)))

/-- `IsSpokenLine logger line` means that the line has the form of a note about
something said. The name ends at the first colon, and the text on the line. -/
inductive IsSpokenLine (logger : String) : List Char → Prop where
  | spoken {front clock name text : List Char} :
      IsFront logger front → IsClock clock → name ≠ [] → ':' ∉ name →
      '\n' ∉ text →
      IsSpokenLine logger (front ++ '[' :: (clock ++ ']' :: ' ' ::
        (name ++ ':' :: ' ' :: text)))

/-- `IsPresenceLine logger line` means that the line has the form of a note
about somebody who was connected or disconnected. -/
inductive IsPresenceLine (logger : String) : List Char → Prop where
  | connected {front name : List Char} :
      IsFront logger front → '\n' ∉ name →
      IsPresenceLine logger
        (front ++ ("Participant connected: ".toList ++ name))
  | disconnected {front name : List Char} :
      IsFront logger front → '\n' ∉ name →
      IsPresenceLine logger
        (front ++ ("Participant disconnected: ".toList ++ name))

/-! ## One front -/

theorem IsDay.length_eq {day : List Char} (isDay : IsDay day) :
    day.length = 10 := by
  obtain ⟨year, month, date⟩ := isDay
  simp [year.1, month.1, date.1]

theorem IsClock.length_eq {clock : List Char} (isClock : IsClock clock) :
    clock.length = 8 := by
  obtain ⟨hour, minute, second⟩ := isClock
  simp [hour.1, minute.1, second.1]

variable {logger : String}

/-- Behind digits the mark is found again. -/
theorem dropWhile_fraction {fraction : List Char}
    (digits : ∀ c ∈ fraction, isDecimalDigit c = true) (rest : List Char) :
    (fraction ++ (infoMark logger ++ rest)).dropWhile isDecimalDigit =
      infoMark logger ++ rest := by
  rw [List.dropWhile_append_of_pos digits]
  rfl

/-- A line has one front. -/
theorem IsFront.unique {front other message messageToo : List Char}
    (isFront : IsFront logger front) (isFrontToo : IsFront logger other)
    (same : front ++ message = other ++ messageToo) :
    message = messageToo := by
  obtain ⟨day, clock, -, digits⟩ := isFront
  obtain ⟨dayToo, clockToo, -, digitsToo⟩ := isFrontToo
  simp only [List.append_assoc, List.cons_append] at same
  obtain ⟨-, behindDay⟩ :=
    List.append_inj same (day.length_eq.trans dayToo.length_eq.symm)
  obtain ⟨-, behindClock⟩ :=
    List.append_inj (List.cons.inj behindDay).2
      (clock.length_eq.trans clockToo.length_eq.symm)
  have behindFraction :=
    congrArg (List.dropWhile isDecimalDigit) (List.cons.inj behindClock).2
  rw [dropWhile_fraction digits, dropWhile_fraction digitsToo]
    at behindFraction
  exact List.append_cancel_left behindFraction

/-- No line has both forms. -/
theorem IsSpokenLine.not_isPresenceLine {line : List Char}
    (spoken : IsSpokenLine logger line) : ¬ IsPresenceLine logger line := by
  obtain ⟨front, -, -, -, -⟩ := spoken
  intro presence
  generalize shape : _ ++ '[' :: _ = line at presence
  cases presence with
  | connected frontToo => cases front.unique frontToo shape
  | disconnected frontToo => cases front.unique frontToo shape

/-! ## What is read has a form -/

theorem areDigits_fixedDigits (width number : Nat) :
    AreDigits width (fixedDigits width number) :=
  ⟨length_fixedDigits width number, fun c member =>
    isDecimalDigit_of_isDigit (isDigit_fixedDigits width number c member)⟩

theorem readFront?_eq_some {text rest : List Char} {date : Date}
    (found : Date.readFront? text = some (date, rest)) :
    ∃ day, IsDay day ∧ text = day ++ rest ∧ date.HasFourDigits := by
  unfold Date.readFront? at found
  simp only [Option.bind_eq_bind, Option.bind_eq_some_iff, Prod.exists]
    at found
  obtain ⟨year, _, yearRead, _, dash, month, _, monthRead, _, dashToo, day,
    _, dayRead, last, parts, equality⟩ := found
  obtain ⟨rfl, rfl⟩ := Prod.mk.inj (Option.some.inj equality)
  obtain ⟨rfl, small⟩ := Date.readFixed?_eq_some yearRead
  obtain rfl := expectChar?_eq_some dash
  obtain ⟨rfl, -⟩ := Date.readFixed?_eq_some monthRead
  obtain rfl := expectChar?_eq_some dashToo
  obtain ⟨rfl, -⟩ := Date.readFixed?_eq_some dayRead
  refine ⟨fixedDigits 4 year ++ '-' ::
      (fixedDigits 2 month ++ '-' :: fixedDigits 2 day),
    .day (areDigits_fixedDigits 4 year) (areDigits_fixedDigits 2 month)
      (areDigits_fixedDigits 2 day), by simp, ?_⟩
  rw [Date.HasFourDigits, (Date.ofParts?_eq_some parts).1]
  omega

theorem readClock?_eq_some {text rest : List Char} {time : ClockTime}
    (found : readClock? text = some (time, rest)) :
    ∃ clock, IsClock clock ∧ text = clock ++ rest := by
  unfold readClock? at found
  simp only [Option.bind_eq_bind, Option.bind_eq_some_iff, Prod.exists]
    at found
  obtain ⟨hour, _, hourRead, _, colon, minute, _, minuteRead, _, colonToo,
    second, _, secondRead, last, parts, equality⟩ := found
  obtain ⟨rfl, rfl⟩ := Prod.mk.inj (Option.some.inj equality)
  obtain ⟨rfl, -⟩ := Date.readFixed?_eq_some hourRead
  obtain rfl := expectChar?_eq_some colon
  obtain ⟨rfl, -⟩ := Date.readFixed?_eq_some minuteRead
  obtain rfl := expectChar?_eq_some colonToo
  obtain ⟨rfl, -⟩ := Date.readFixed?_eq_some secondRead
  exact ⟨fixedDigits 2 hour ++ ':' ::
      (fixedDigits 2 minute ++ ':' :: fixedDigits 2 second),
    .clock (areDigits_fixedDigits 2 hour) (areDigits_fixedDigits 2 minute)
      (areDigits_fixedDigits 2 second), by simp⟩

theorem skipFraction?_eq_some {text rest : List Char}
    (found : skipFraction? text = some rest) :
    ∃ fraction, fraction ≠ [] ∧ (∀ c ∈ fraction, isDecimalDigit c = true) ∧
      text = fraction ++ rest := by
  cases text with
  | nil => cases found
  | cons c others =>
      rw [skipFraction?] at found
      split at found
      · next digit =>
          obtain rfl := Option.some.inj found
          refine ⟨c :: others.takeWhile isDecimalDigit, List.cons_ne_nil _ _,
            fun d member => ?_, ?_⟩
          · rcases List.mem_cons.1 member with rfl | later
            · exact digit
            · exact List.mem_takeWhile_imp later
          · rw [List.cons_append, List.takeWhile_append_dropWhile]
      · cases found

theorem readNote?_eq_some {line message : List Char} {moment : Moment}
    (found : readNote? logger line = some (moment, message)) :
    ∃ front, IsFront logger front ∧ line = front ++ message ∧
      moment.date.HasFourDigits := by
  unfold readNote? at found
  simp only [Option.bind_eq_bind, Option.bind_eq_some_iff, Prod.exists]
    at found
  obtain ⟨date, _, dateRead, _, space, time, _, clockRead, _, comma, _, skipped,
    _, dashRead, _, name, _, dashToo, _, level, last, dashLast, equality⟩ :=
    found
  obtain ⟨rfl, rfl⟩ := Prod.mk.inj (Option.some.inj equality)
  obtain ⟨day, isDay, rfl, fourDigits⟩ := readFront?_eq_some dateRead
  obtain rfl := expectChar?_eq_some space
  obtain ⟨clock, isClock, rfl⟩ := readClock?_eq_some clockRead
  obtain rfl := expectChar?_eq_some comma
  obtain ⟨fraction, notEmpty, digits, rfl⟩ := skipFraction?_eq_some skipped
  obtain rfl := expect?_eq_some dashRead
  obtain rfl := expect?_eq_some name
  obtain rfl := expect?_eq_some dashToo
  obtain rfl := expect?_eq_some level
  obtain rfl := expect?_eq_some dashLast
  exact ⟨_, .front isDay isClock notEmpty digits, by simp [infoMark],
    fourDigits⟩

end MeetingLog.Trace
