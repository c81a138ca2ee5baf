import MeetingLog.Calendar.Moment
import MeetingLog.Proofs.Calendar.Clock

/-!
# Order and distance of moments

Moments of one date are ordered like their times. The distance between two
times without fraction is the difference of two counts of seconds, each of
which grows with the time: a leap second counts when it is reached, and not
when it is left.
-/

namespace MeetingLog.Calendar

/-! ## Order -/

theorem ClockTime.rank_lt (time : ClockTime) :
    time.rank < ClockTime.ranksPerDay := by
  have hour := time.hour.isLt
  have minute := time.minute.isLt
  have second := time.second.isLt
  have nanosecond := time.nanosecond.isLt
  rw [ClockTime.rank, ClockTime.ranksPerDay]
  omega

theorem ClockTime.eq_of_rank {first second : ClockTime}
    (same : first.rank = second.rank) : first = second := by
  obtain ⟨hour, minute, secondOf, nanosecond⟩ := first
  obtain ⟨hour', minute', secondOf', nanosecond'⟩ := second
  simp only [ClockTime.rank] at same
  have hourSame : hour = hour' := by omega
  have minuteSame : minute = minute' := by omega
  have secondSame : secondOf = secondOf' := by omega
  have nanosecondSame : nanosecond = nanosecond' := by omega
  rw [hourSame, minuteSame, secondSame, nanosecondSame]

theorem Date.eq_of_rank {first second : Date}
    (same : first.rank = second.rank) : first = second := by
  obtain ⟨year, month, day, valid⟩ := first
  obtain ⟨year', month', day', valid'⟩ := second
  simp only [Date.rank] at same
  have yearSame : year = year' := by omega
  have monthSame : month = month' := by omega
  have daySame : day = day' := by omega
  subst yearSame monthSame daySame
  rfl

namespace Moment

theorem eq_of_rank {first second : Moment}
    (same : first.rank = second.rank) : first = second := by
  obtain ⟨date, time⟩ := first
  obtain ⟨date', time'⟩ := second
  have place := time.rank_lt
  have place' := time'.rank_lt
  simp only [rank] at same
  rw [ClockTime.ranksPerDay] at *
  have dateSame : date.rank = date'.rank := by omega
  have timeSame : time.rank = time'.rank := by omega
  rw [Date.eq_of_rank dateSame, ClockTime.eq_of_rank timeSame]

theorem atMost_iff {first second : Moment} :
    first.atMost second = true ↔ first.rank ≤ second.rank :=
  decide_eq_true_iff

theorem before_iff {first second : Moment} :
    first.before second = true ↔ first.rank < second.rank :=
  decide_eq_true_iff

theorem atMost_atTime (date : Date) (first second : ClockTime) :
    (date.atTime first).atMost (date.atTime second) = true ↔
      first.rank ≤ second.rank := by
  rw [atMost, decide_eq_true_iff, rank, rank]
  show date.rank * _ + (first.rank : Int) ≤
    date.rank * _ + (second.rank : Int) ↔ _
  omega

theorem before_atTime (date : Date) (first second : ClockTime) :
    (date.atTime first).before (date.atTime second) = true ↔
      first.rank < second.rank := by
  rw [before, decide_eq_true_iff, rank, rank]
  show date.rank * _ + (first.rank : Int) <
    date.rank * _ + (second.rank : Int) ↔ _
  omega

/-- A moment strictly between two moments of a date lies on this date. -/
theorem eq_atTime {moment : Moment} {date : Date} {first second : ClockTime}
    (behind : (date.atTime first).before moment = true)
    (ahead : moment.before (date.atTime second) = true) :
    moment = date.atTime moment.time := by
  rw [before, decide_eq_true_iff, rank, rank, Date.atTime] at behind ahead
  dsimp only at behind ahead
  have place := moment.time.rank_lt
  have firstPlace := first.rank_lt
  have secondPlace := second.rank_lt
  rw [ClockTime.ranksPerDay] at *
  have same : moment.date.rank = date.rank := by omega
  rw [← Date.eq_of_rank same]
  rfl

/-! ## Distance -/

theorem secondsApart_swap (first second : ClockTime) :
    secondsApart second first = -secondsApart first second := by
  rw [secondsApart, secondsApart]
  by_cases earlier : first.plainSeconds < second.plainSeconds
  · have notLater : ¬ second.plainSeconds < first.plainSeconds := by omega
    by_cases leap : first.isLeap = true
    all_goals
      simp only [earlier, notLater, leap, true_and, false_and, if_true,
        if_false, Bool.false_eq_true]
      omega
  · by_cases later : second.plainSeconds < first.plainSeconds
    · by_cases leap : second.isLeap = true
      all_goals
        simp only [earlier, later, leap, true_and, false_and, if_true,
          if_false, Bool.false_eq_true]
        omega
    · simp only [earlier, later, false_and, if_false]
      omega

theorem wholeSecondsApart_swap (first second : Moment) :
    second.wholeSecondsApart first = -first.wholeSecondsApart second := by
  have apart : second.nanosecondsApart first =
      -first.nanosecondsApart second := by
    have swapped := secondsApart_swap first.time second.time
    rw [nanosecondsApart, nanosecondsApart]
    omega
  rw [wholeSecondsApart, wholeSecondsApart, apart, Int.neg_tdiv]

theorem wholeSecondsApart_self (moment : Moment) :
    moment.wholeSecondsApart moment = 0 := by
  have swapped := wholeSecondsApart_swap moment moment
  omega

/-- The seconds passed since midnight when a time is reached, where a leap
second counts as one more. -/
def secondsReached (time : ClockTime) : Nat :=
  (time.hour.val * 60 + time.minute.val) * 60 + time.second.val

theorem secondsReached_eq (time : ClockTime) :
    secondsReached time =
      time.plainSeconds + if time.isLeap then 1 else 0 := by
  have bound := time.second.isLt
  rw [secondsReached, ClockTime.plainSeconds, ClockTime.isLeap]
  by_cases leap : time.second.val = 60
  · simp only [leap, beq_self_eq_true, if_true]
    omega
  · have notLeap : (time.second.val == 60) = false := beq_false_of_ne leap
    simp only [notLeap, Bool.false_eq_true, if_false]
    omega

theorem plainSeconds_mono {first second : ClockTime}
    (earlier : first.rank ≤ second.rank) :
    first.plainSeconds ≤ second.plainSeconds := by
  have firstBound := first.nanosecond.isLt
  have secondBound := second.nanosecond.isLt
  have firstSecond := first.second.isLt
  have secondSecond := second.second.isLt
  rw [ClockTime.rank, ClockTime.rank] at earlier
  rw [ClockTime.plainSeconds, ClockTime.plainSeconds]
  omega

theorem secondsReached_mono {first second : ClockTime}
    (earlier : first.rank ≤ second.rank) :
    secondsReached first ≤ secondsReached second := by
  have firstBound := first.nanosecond.isLt
  have secondBound := second.nanosecond.isLt
  have firstSecond := first.second.isLt
  have secondSecond := second.second.isLt
  rw [ClockTime.rank, ClockTime.rank] at earlier
  rw [secondsReached, secondsReached]
  omega

/-- Only the leap second comes after a time without being counted. -/
theorem plainSeconds_lt {first second : ClockTime}
    (firstWhole : first.IsWhole) (secondWhole : second.IsWhole)
    (earlier : first.rank < second.rank) :
    first.plainSeconds < second.plainSeconds ∨
      first.plainSeconds = second.plainSeconds ∧
        first.isLeap = false ∧ second.isLeap = true := by
  have firstZero : first.nanosecond.val = 0 := firstWhole
  have secondZero : second.nanosecond.val = 0 := secondWhole
  have firstSecond := first.second.isLt
  have secondSecond := second.second.isLt
  rw [ClockTime.rank, ClockTime.rank, firstZero, secondZero] at earlier
  rw [ClockTime.plainSeconds, ClockTime.plainSeconds, ClockTime.isLeap,
    ClockTime.isLeap, beq_eq_false_iff_ne, beq_iff_eq]
  omega

theorem nanosecondsApart_eq {date : Date} {first second : ClockTime}
    (firstWhole : first.IsWhole) (secondWhole : second.IsWhole)
    (earlier : first.rank < second.rank) :
    (date.atTime first).nanosecondsApart (date.atTime second) =
      ((secondsReached second : Int) - (first.plainSeconds : Int)) *
        1000000000 := by
  have firstZero : first.nanosecond.val = 0 := firstWhole
  have secondZero : second.nanosecond.val = 0 := secondWhole
  have places := plainSeconds_lt firstWhole secondWhole earlier
  rw [secondsReached_eq]
  simp only [nanosecondsApart, Date.atTime, secondsApart,
    ClockTime.fraction, firstZero, secondZero]
  rcases places with (less | ⟨same, notLeap, leap⟩)
  · have notMore : ¬ second.plainSeconds < first.plainSeconds := by omega
    by_cases firstLeap : first.isLeap = true
    all_goals by_cases secondLeap : second.isLeap = true
    all_goals
      simp only [less, notMore, firstLeap, secondLeap, true_and, false_and,
        if_true, if_false, Bool.false_eq_true]
      omega
  · simp only [same, notLeap, leap, Nat.lt_irrefl, false_and, if_true,
      if_false, Bool.false_eq_true]
    omega

/-- The distance of two times without fraction. -/
theorem wholeSecondsApart_eq {date : Date} {first second : ClockTime}
    (firstWhole : first.IsWhole) (secondWhole : second.IsWhole)
    (earlier : first.rank < second.rank) :
    (date.atTime first).wholeSecondsApart (date.atTime second) =
      (secondsReached second : Int) - (first.plainSeconds : Int) := by
  rw [wholeSecondsApart, nanosecondsApart_eq firstWhole secondWhole earlier,
    Int.mul_tdiv_cancel _ (by decide)]

/-- Times are at most as far apart as times around them. -/
theorem wholeSecondsApart_le (date : Date)
    {outer inner innerToo outerToo : ClockTime}
    (outerWhole : outer.IsWhole) (innerWhole : inner.IsWhole)
    (innerTooWhole : innerToo.IsWhole) (outerTooWhole : outerToo.IsWhole)
    (lower : outer.rank ≤ inner.rank) (between : inner.rank < innerToo.rank)
    (upper : innerToo.rank ≤ outerToo.rank) :
    (date.atTime inner).wholeSecondsApart (date.atTime innerToo) ≤
      (date.atTime outer).wholeSecondsApart (date.atTime outerToo) := by
  have left := plainSeconds_mono lower
  have right := secondsReached_mono upper
  rw [wholeSecondsApart_eq innerWhole innerTooWhole between,
    wholeSecondsApart_eq outerWhole outerTooWhole (by omega)]
  omega

end Moment

end MeetingLog.Calendar
