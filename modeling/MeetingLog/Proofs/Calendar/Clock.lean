import MeetingLog.Calendar.Clock
import MeetingLog.Proofs.Text.Digits

/-!
# Times read back

A time that was written is read back without its fraction of a second. Times
that have none are told apart by what is written of them.
-/

namespace MeetingLog.Calendar.ClockTime

open MeetingLog.Text

/-- `IsWhole time` means that the time has no fraction of a second. -/
def IsWhole (time : ClockTime) : Prop :=
  time.nanosecond.val = 0

instance (time : ClockTime) : Decidable time.IsWhole :=
  inferInstanceAs (Decidable (time.nanosecond.val = 0))

theorem isWhole_wholeSecond (time : ClockTime) : time.wholeSecond.IsWhole :=
  rfl

theorem wholeSecond_eq {time : ClockTime} (whole : time.IsWhole) :
    time.wholeSecond = time := by
  obtain ⟨hour, minute, second, nanosecond⟩ := time
  obtain rfl : nanosecond = 0 := Fin.ext whole
  rfl

theorem ofParts?_parts (time : ClockTime) :
    ofParts? time.hour.val time.minute.val time.second.val =
      some time.wholeSecond := by
  rw [ofParts?, dif_pos time.hour.isLt, dif_pos time.minute.isLt,
    dif_pos time.second.isLt]
  rfl

theorem isWhole_ofParts? {hour minute second : Nat} {time : ClockTime}
    (found : ofParts? hour minute second = some time) : time.IsWhole := by
  unfold ofParts? at found
  split at found
  · split at found
    · split at found
      · obtain rfl := Option.some.inj found
        rfl
      · cases found
    · cases found
  · cases found

theorem letters_append (time : ClockTime) (rest : List Char) :
    time.letters ++ rest =
      fixedDigits 2 time.hour.val ++ ':' ::
        (fixedDigits 2 time.minute.val ++ ':' ::
          (fixedDigits 2 time.second.val ++ rest)) := by
  rw [letters]
  simp only [List.append_assoc, List.cons_append]

theorem readFront?_letters (time : ClockTime) (rest : List Char) :
    readFront? (time.letters ++ rest) = some (time.wholeSecond, rest) := by
  have hour : time.hour.val < 10 ^ 2 := Nat.lt_trans time.hour.isLt (by decide)
  have minute : time.minute.val < 10 ^ 2 :=
    Nat.lt_trans time.minute.isLt (by decide)
  have second : time.second.val < 10 ^ 2 :=
    Nat.lt_trans time.second.isLt (by decide)
  rw [letters_append, readFront?]
  simp only [trimFront_fixedDigits Nat.two_pos,
    readNumber?_fixedDigits Nat.two_pos hour,
    readNumber?_fixedDigits Nat.two_pos minute,
    readNumber?_fixedDigits Nat.two_pos second, expectChar?_cons,
    ofParts?_parts, Option.bind_eq_bind, Option.bind_some]
  rfl

/-- A time is read back from what is written of it. -/
theorem read?_letters (time : ClockTime) :
    read? time.letters = some time.wholeSecond := by
  have front := readFront?_letters time []
  rw [List.append_nil] at front
  rw [read?, front]
  rfl

theorem isWhole_readFront? {text rest : List Char} {time : ClockTime}
    (found : readFront? text = some (time, rest)) : time.IsWhole := by
  unfold readFront? at found
  simp only [Option.bind_eq_bind, Option.bind_eq_some_iff, Prod.exists]
    at found
  obtain ⟨_, _, _, _, _, _, _, _, _, _, _, _, _, last, parts, equality⟩ :=
    found
  obtain ⟨rfl, -⟩ := Prod.mk.inj (Option.some.inj equality)
  exact isWhole_ofParts? parts

/-- A time that was read has no fraction of a second. -/
theorem isWhole_read? {text : List Char} {time : ClockTime}
    (found : read? text = some time) : time.IsWhole := by
  unfold read? at found
  simp only [Option.bind_eq_bind, Option.bind_eq_some_iff, Prod.exists]
    at found
  obtain ⟨first, rest, front, equality⟩ := found
  split at equality
  · obtain rfl := Option.some.inj equality
    exact isWhole_readFront? front
  · cases equality

theorem feed_not_mem_letters (time : ClockTime) : '\n' ∉ time.letters := by
  intro member
  simp only [letters, List.mem_append, List.mem_cons,
    feed_not_mem_fixedDigits, false_or, or_false] at member
  rcases member with (colon | colon)
  · cases colon
  · cases colon

end MeetingLog.Calendar.ClockTime
