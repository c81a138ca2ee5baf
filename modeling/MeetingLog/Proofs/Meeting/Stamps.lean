import MeetingLog.Meeting.Basic
import MeetingLog.Proofs.Calendar.Later
import MeetingLog.Proofs.Repair.Gap

/-!
# Times of records

The records of a meeting get the time at which they are taken. As long as a
meeting goes on within one day their times are in order, from the time at which
the meeting began to the time it is.
-/

namespace MeetingLog.Meeting

open MeetingLog.Calendar

/-- The time that a record gets some milliseconds after a meeting began. -/
def stamp (began : Moment) (elapsed : Nat) : ClockTime :=
  (began.later elapsed).time.wholeSecond

/-- `AreStamped began elapsed records` means that the records were taken one
after another until some milliseconds after a meeting began, each with the time
at which it was taken. -/
inductive AreStamped (began : Moment) : Nat → List CoreRecord → Prop
  | nothing (elapsed : Nat) : AreStamped began elapsed []
  | wait {elapsed elapsedToo : Nat} {records : List CoreRecord} :
      AreStamped began elapsed records →
      elapsed ≤ elapsedToo →
      AreStamped began elapsedToo records
  | record {elapsed : Nat} {records : List CoreRecord} {record : CoreRecord} :
      AreStamped began elapsed records →
      record.time = stamp began elapsed →
      AreStamped began elapsed (records ++ [record])

variable {began : Moment} {elapsed elapsedToo : Nat}
variable {records : List CoreRecord}

theorem AreStamped.append (stamped : AreStamped began elapsed records)
    {more : List CoreRecord}
    (now : ∀ record ∈ more, record.time = stamp began elapsed) :
    AreStamped began elapsed (records ++ more) := by
  induction more generalizing records with
  | nil =>
      rw [List.append_nil]
      exact stamped
  | cons record others inductionHypothesis =>
      have next : AreStamped began elapsed (records ++ [record]) :=
        stamped.record (now record List.mem_cons_self)
      have rest := inductionHypothesis next fun other member =>
        now other (List.mem_cons_of_mem _ member)
      rwa [List.append_assoc] at rest

theorem date_later (earlier : elapsed ≤ elapsedToo)
    (sameDay : (began.later elapsedToo).date = began.date) :
    (began.later elapsed).date = began.date := by
  have lower := began.rank_later_mono (Nat.zero_le elapsed)
  rw [Moment.later_zero] at lower
  exact Moment.date_eq_of_between sameDay lower
    (began.rank_later_mono earlier)

theorem stamp_mono (earlier : elapsed ≤ elapsedToo)
    (sameDay : (began.later elapsedToo).date = began.date) :
    (stamp began elapsed).rank ≤ (stamp began elapsedToo).rank := by
  have sameDate : (began.later elapsed).date = (began.later elapsedToo).date :=
    (date_later earlier sameDay).trans sameDay.symm
  exact ClockTime.rank_wholeSecond_mono
    (Moment.time_rank_le sameDate (began.rank_later_mono earlier))

theorem stamp_zero (began : Moment) :
    stamp began 0 = began.time.wholeSecond := by
  rw [stamp, Moment.later_zero]

namespace AreStamped

/-- Every record lies between the time at which the meeting began and the time
it is. -/
theorem between (stamped : AreStamped began elapsed records)
    (sameDay : (began.later elapsed).date = began.date) :
    ∀ record ∈ records, record.time.IsWhole ∧
      (stamp began 0).rank ≤ record.time.rank ∧
        record.time.rank ≤ (stamp began elapsed).rank := by
  induction stamped with
  | nothing => nofun
  | wait stamped earlier inductionHypothesis =>
      intro record member
      obtain ⟨whole, lower, upper⟩ :=
        inductionHypothesis (date_later earlier sameDay) record member
      exact ⟨whole, lower, Nat.le_trans upper (stamp_mono earlier sameDay)⟩
  | record stamped time inductionHypothesis =>
      intro record member
      rcases List.mem_append.1 member with (before | new)
      · exact inductionHypothesis sameDay record before
      · obtain rfl := List.mem_singleton.1 new
        rw [time]
        exact ⟨ClockTime.isWhole_wholeSecond _,
          stamp_mono (Nat.zero_le _) sameDay, Nat.le_refl _⟩

theorem isOrdered (stamped : AreStamped began elapsed records)
    (sameDay : (began.later elapsed).date = began.date) :
    IsOrdered records := by
  induction stamped with
  | nothing => exact List.Pairwise.nil
  | wait stamped earlier inductionHypothesis =>
      exact inductionHypothesis (date_later earlier sameDay)
  | @record elapsed records last stamped time inductionHypothesis =>
      refine List.pairwise_append.2
        ⟨inductionHypothesis sameDay, List.pairwise_singleton _ _, ?_⟩
      intro record member other new
      obtain rfl := List.mem_singleton.1 new
      rw [time]
      exact (stamped.between sameDay record member).2.2

end AreStamped

end MeetingLog.Meeting
