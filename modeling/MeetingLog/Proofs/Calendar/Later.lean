import MeetingLog.Proofs.Calendar.Date
import MeetingLog.Proofs.Calendar.Moment

/-!
# Later moments

The clock never goes back: the more milliseconds pass, the later it is. Between
two moments of one date it therefore does not leave this date.
-/

namespace MeetingLog.Calendar

namespace ClockTime

theorem rank_ofPlainSeconds {seconds nanoseconds : Nat}
    (withinDay : seconds < 86400) (withinSecond : nanoseconds < 1000000000) :
    (ofPlainSeconds seconds nanoseconds).rank =
      (seconds / 60 * 61 + seconds % 60) * 1000000000 + nanoseconds := by
  have hour : (ofPlainSeconds seconds nanoseconds).hour.val =
      seconds / 3600 % 24 := rfl
  have minute : (ofPlainSeconds seconds nanoseconds).minute.val =
      seconds / 60 % 60 := rfl
  have second : (ofPlainSeconds seconds nanoseconds).second.val =
      seconds % 60 % 61 := rfl
  have nanosecond : (ofPlainSeconds seconds nanoseconds).nanosecond.val =
      nanoseconds % 1000000000 := rfl
  rw [rank, hour, minute, second, nanosecond]
  omega

/-- On a round clock only midnight is preceded by a later time. -/
theorem rank_previousSecond_lt {time : ClockTime} (whole : time.IsWhole)
    (notMidnight : 0 < time.rank) :
    time.previousSecond.rank < time.rank := by
  have hour := time.hour.isLt
  have minute := time.minute.isLt
  have second := time.second.isLt
  rw [IsWhole] at whole
  rw [rank] at notMidnight
  unfold previousSecond
  split
  · next leap =>
      rw [isLeap, beq_iff_eq] at leap
      have earlier : ({ time with second := 59 } : ClockTime).rank =
          ((time.hour.val * 60 + time.minute.val) * 61 + 59) * 1000000000 +
            time.nanosecond.val := rfl
      rw [earlier, rank]
      omega
  · next plain =>
      rw [isLeap, beq_iff_eq] at plain
      have passed : time.plainSeconds =
          (time.hour.val * 60 + time.minute.val) * 60 + time.second.val := by
        rw [plainSeconds]
        omega
      have notFirst : time.plainSeconds ≠ 0 := by omega
      simp only [if_neg notFirst]
      rw [rank_ofPlainSeconds (by omega) (by omega), rank]
      omega

theorem rank_withNanoseconds {nanoseconds : Nat} (time : ClockTime)
    (withinSecond : nanoseconds < 1000000000) :
    (time.withNanoseconds nanoseconds).rank =
      ((time.hour.val * 60 + time.minute.val) * 61 + time.second.val) *
        1000000000 + nanoseconds := by
  have nanosecond : (time.withNanoseconds nanoseconds).nanosecond.val =
      nanoseconds % 1000000000 := rfl
  rw [rank, nanosecond, Nat.mod_eq_of_lt withinSecond]
  rfl

theorem rank_wholeSecond_mono {first second : ClockTime}
    (earlier : first.rank ≤ second.rank) :
    first.wholeSecond.rank ≤ second.wholeSecond.rank := by
  have firstBound := first.nanosecond.isLt
  have secondBound := second.nanosecond.isLt
  have firstRank : first.wholeSecond.rank =
      ((first.hour.val * 60 + first.minute.val) * 61 + first.second.val) *
        1000000000 + 0 := rfl
  have secondRank : second.wholeSecond.rank =
      ((second.hour.val * 60 + second.minute.val) * 61 + second.second.val) *
        1000000000 + 0 := rfl
  rw [rank, rank] at earlier
  omega

end ClockTime

namespace Moment

/-- The moment reached once the second of a moment is over: so many plain
seconds after midnight of its date, and so many nanoseconds. -/
def afterSecond (date : Date) (seconds nanoseconds : Nat) : Moment :=
  ⟨date.later (seconds / 86400),
    ClockTime.ofPlainSeconds (seconds % 86400) nanoseconds⟩

/-- The moment some nanoseconds after a moment. -/
def pass (passed : Nat) (moment : Moment) : Moment :=
  if moment.time.nanosecond.val + passed < 1000000000 then
    ⟨moment.date,
      moment.time.withNanoseconds (moment.time.nanosecond.val + passed)⟩
  else
    afterSecond moment.date
      (moment.time.plainSeconds +
        (moment.time.nanosecond.val + passed) / 1000000000)
      ((moment.time.nanosecond.val + passed) % 1000000000)

theorem later_eq (milliseconds : Nat) (moment : Moment) :
    moment.later milliseconds = moment.pass (milliseconds * 1000000) :=
  rfl

theorem rank_afterSecond_mono {date : Date}
    {seconds secondsToo nanoseconds nanosecondsToo : Nat}
    (within : nanoseconds < 1000000000)
    (withinToo : nanosecondsToo < 1000000000)
    (earlier : seconds * 1000000000 + nanoseconds ≤
      secondsToo * 1000000000 + nanosecondsToo) :
    (afterSecond date seconds nanoseconds).rank ≤
      (afterSecond date secondsToo nanosecondsToo).rank := by
  have place := ClockTime.rank_ofPlainSeconds
    (Nat.mod_lt seconds (by decide : 86400 > 0)) within
  have placeToo := ClockTime.rank_ofPlainSeconds
    (Nat.mod_lt secondsToo (by decide : 86400 > 0)) withinToo
  have days := Date.rank_later (secondsToo / 86400 - seconds / 86400)
    (date.later (seconds / 86400))
  have order : seconds / 86400 ≤ secondsToo / 86400 := by omega
  rw [Date.later_later, Nat.add_sub_cancel' order] at days
  have perDay : (ClockTime.ranksPerDay : Int) = 87840000000000 := rfl
  rw [rank, rank, afterSecond, afterSecond, perDay]
  simp only [place, placeToo]
  by_cases same : seconds / 86400 = secondsToo / 86400
  · rw [same]
    omega
  · omega

/-- A moment within its second comes before every moment after this second. -/
theorem rank_le_afterSecond {moment : Moment} {seconds nanoseconds : Nat}
    {kept : Nat} (keptWithin : kept < 1000000000)
    (within : nanoseconds < 1000000000)
    (above : moment.time.plainSeconds < seconds) :
    (Moment.mk moment.date (moment.time.withNanoseconds kept)).rank ≤
      (afterSecond moment.date seconds nanoseconds).rank := by
  have place := ClockTime.rank_ofPlainSeconds
    (Nat.mod_lt seconds (by decide : 86400 > 0)) within
  have days := Date.rank_later (seconds / 86400) moment.date
  have perDay : (ClockTime.ranksPerDay : Int) = 87840000000000 := rfl
  have hour := moment.time.hour.isLt
  have minute := moment.time.minute.isLt
  have second := moment.time.second.isLt
  rw [ClockTime.plainSeconds] at above
  rw [rank, rank, afterSecond, perDay]
  simp only [place, ClockTime.rank_withNanoseconds moment.time keptWithin]
  by_cases same : seconds / 86400 = 0
  · rw [same] at days ⊢
    rw [Date.later]
    omega
  · omega

theorem rank_pass_mono (moment : Moment) {passed passedToo : Nat}
    (earlier : passed ≤ passedToo) :
    (moment.pass passed).rank ≤ (moment.pass passedToo).rank := by
  rw [pass, pass]
  split
  · next inside =>
      split
      · next insideToo =>
          rw [rank, rank, ClockTime.rank_withNanoseconds moment.time inside,
            ClockTime.rank_withNanoseconds moment.time insideToo]
          dsimp only
          omega
      · next outside =>
          exact rank_le_afterSecond inside (Nat.mod_lt _ (by decide))
            (by omega)
  · next outside =>
      rw [if_neg (by omega)]
      exact rank_afterSecond_mono (Nat.mod_lt _ (by decide))
        (Nat.mod_lt _ (by decide)) (by omega)

/-- The more time passes, the later it is. -/
theorem rank_later_mono (moment : Moment) {first second : Nat}
    (earlier : first ≤ second) :
    (moment.later first).rank ≤ (moment.later second).rank := by
  rw [later_eq, later_eq]
  exact rank_pass_mono moment (Nat.mul_le_mul_right 1000000 earlier)

@[simp]
theorem later_zero (moment : Moment) : moment.later 0 = moment := by
  have inside := moment.time.nanosecond.isLt
  have same : moment.time.withNanoseconds moment.time.nanosecond.val =
      moment.time := by
    have nanosecond : Fin.ofNat 1000000000 moment.time.nanosecond.val =
        moment.time.nanosecond :=
      Fin.ext (Nat.mod_eq_of_lt inside)
    rw [ClockTime.withNanoseconds, nanosecond]
  rw [later_eq, Nat.zero_mul, pass, Nat.add_zero, if_pos inside, same]

/-- Of two moments of one date the later one has the later time. -/
theorem time_rank_le {first second : Moment} (sameDate : first.date = second.date)
    (earlier : first.rank ≤ second.rank) :
    first.time.rank ≤ second.time.rank := by
  rw [rank, rank, sameDate] at earlier
  omega

/-- Of two moments the later one has no earlier date. -/
theorem date_rank_le {first second : Moment}
    (earlier : first.rank ≤ second.rank) :
    first.date.rank ≤ second.date.rank := by
  have firstPlace := first.time.rank_lt
  have secondPlace := second.time.rank_lt
  rw [rank, rank] at earlier
  have perDay : (ClockTime.ranksPerDay : Int) = 87840000000000 := rfl
  have perDayToo : ClockTime.ranksPerDay = 87840000000000 := rfl
  rw [perDay] at earlier
  rw [perDayToo] at firstPlace secondPlace
  omega

/-- Between two moments with four digits for the year there are no others. -/
theorem hasFourDigits_of_between {first middle last : Moment}
    (fourDigits : first.date.HasFourDigits)
    (fourDigitsToo : last.date.HasFourDigits)
    (lower : first.rank ≤ middle.rank) (upper : middle.rank ≤ last.rank) :
    middle.date.HasFourDigits :=
  ⟨Int.le_trans fourDigits.1 (Date.year_le_of_rank (date_rank_le lower)),
    Int.lt_of_le_of_lt (Date.year_le_of_rank (date_rank_le upper))
      fourDigitsToo.2⟩

theorem date_eq_of_between {first middle last : Moment}
    (sameDate : last.date = first.date) (lower : first.rank ≤ middle.rank)
    (upper : middle.rank ≤ last.rank) : middle.date = first.date := by
  have firstPlace := first.time.rank_lt
  have middlePlace := middle.time.rank_lt
  have lastPlace := last.time.rank_lt
  rw [rank, rank] at lower upper
  rw [sameDate] at upper
  have perDay : (ClockTime.ranksPerDay : Int) = 87840000000000 := rfl
  have perDayToo : ClockTime.ranksPerDay = 87840000000000 := rfl
  rw [perDay] at lower upper
  rw [perDayToo] at firstPlace middlePlace lastPlace
  exact Date.eq_of_rank (by omega)

end Moment

end MeetingLog.Calendar
