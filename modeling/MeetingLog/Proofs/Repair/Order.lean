import MeetingLog.Proofs.Repair.Adoption
import MeetingLog.Proofs.Repair.Idempotence

/-!
# The order of a repaired recording

A repair sorts the records twice: once to find the gaps, and once more together
with the records that were recovered. Both times records of equal times keep the
order they had. So the repaired recording holds everything that was there and
everything that was recovered, in the order of the times, and where times are
equal first what was there, in its order, and then what was recovered, in the
order of the trace.
-/

namespace MeetingLog

open MeetingLog.Calendar
open MeetingLog.Text
open MeetingLog.Trace

namespace Repaired

/-- `repaired.Merges window core recovered` means that the repaired records are
those of the core and those recovered, each as often as there, in the order of
their times on the date of the window, and that where times are equal, those of
the core come first and otherwise the order is as before. -/
structure Merges (repaired : Repaired) (window : Window)
    (core recovered : List CoreRecord) : Prop where
  rearranged : repaired.records.Perm (core ++ recovered)
  ascending :
    (repaired.records.map fun record => window.moment record.time).Pairwise
      fun earlier later => earlier.atMost later = true
  stable : ∀ time,
    repaired.records.filter (fun record => record.time = time) =
      core.filter (fun record => record.time = time) ++
        recovered.filter fun record => record.time = time

/-- `repaired.EndsAfter window own` means that the repaired recording has the
footer `own`, if there was one, and otherwise one with the time of the last
record or, without any records, of the end of the window. No record is later
than such a footer, as it is written. -/
structure EndsAfter (repaired : Repaired) (window : Window)
    (own : Option Footer) : Prop where
  kept : ∀ footer, own = some footer → repaired.footer = footer
  atLast : own = none → ∀ last, repaired.records.getLast? = some last →
    repaired.footer = ⟨last.time⟩
  atFinish : own = none → repaired.records = [] →
    repaired.footer = ⟨window.finish.time⟩
  notEarlier : own = none → ∀ record ∈ repaired.records,
    (window.moment record.time).atMost
      (window.moment repaired.footer.endedAt.wholeSecond) = true

end Repaired

section

variable {recording : Recording} {logger trace room : String} {window : Window}

theorem merges_repair :
    (recording.repair logger trace window room).Merges window recording.core
      (recover logger window (sortByTime recording.core) trace) := by
  have ordered : IsOrdered
      (recording.repair logger trace window room).records := isOrdered_repair
  refine ⟨records_repair_perm, ?_, fun time => ?_⟩
  · exact List.Pairwise.map _
      (fun _ _ earlier => (Moment.atMost_atTime _ _ _).2 earlier) ordered
  · -- Neither of the two times the records are sorted moves equal times.
    show (sortByTime (sortByTime recording.core ++
      recover logger window (sortByTime recording.core) trace)).filter _ = _
    rw [filter_sortByTime, List.filter_append, filter_sortByTime]

theorem recover_sublist (sorted : List CoreRecord) :
    (recover logger window sorted trace).Sublist
      ((readAll logger trace).map Recovered.record) :=
  (adopt_sublist _ _).trans (List.filter_sublist.map _)

/-- No record of some in order is later than the last one. -/
theorem IsOrdered.rank_le_last {records : List CoreRecord}
    (ordered : IsOrdered records) {last : CoreRecord}
    (isLast : records.getLast? = some last) {record : CoreRecord}
    (member : record ∈ records) : record.time.rank ≤ last.time.rank := by
  obtain ⟨front, rfl⟩ := List.getLast?_eq_some_iff.1 isLast
  obtain ⟨-, -, cross⟩ := List.pairwise_append.1 ordered
  rcases List.mem_append.1 member with inFront | same
  · exact cross record inFront last (List.mem_singleton_self last)
  · rw [List.mem_singleton.1 same]

theorem endsAfter_repair (whole : recording.IsWhole) :
    (recording.repair logger trace window room).EndsAfter window
      recording.footer := by
  have footer_eq : (recording.repair logger trace window room).footer =
      repairedFooter recording window
        (recording.repair logger trace window room).records :=
    rfl
  have atLast (none : recording.footer = none) (last : CoreRecord)
      (isLast : (recording.repair logger trace window
        room).records.getLast? = some last) :
      (recording.repair logger trace window room).footer = ⟨last.time⟩ := by
    rw [footer_eq, repairedFooter, none, isLast]
  refine ⟨fun footer own => ?_, atLast, fun none empty => ?_,
    fun none record member => ?_⟩
  · rw [footer_eq, repairedFooter, own]
  · rw [footer_eq, repairedFooter, none, empty]
    rfl
  · obtain ⟨last, isLast⟩ : ∃ last, (recording.repair logger trace window
        room).records.getLast? = some last :=
      ⟨_, List.getLast?_eq_some_getLast (List.ne_nil_of_mem member)⟩
    have lastWhole : last.time.IsWhole :=
      isWhole_repair whole last (List.mem_of_getLast? isLast)
    rw [atLast none last isLast, ClockTime.wholeSecond_eq lastWhole]
    exact (Moment.atMost_atTime _ _ _).2
      (isOrdered_repair.rank_le_last isLast member)

end

/-- A repair loses, alters and reorders nothing that it should not. The records
are those of the recording and those recovered, which are entries of the trace
in its order, put in order as `Repaired.Merges` says. The lines that are written
are those of the header, if there was one, of these records and of one footer,
and each of them is read as what it was written from, the footer without the
fraction of a second that it may have. -/
theorem repair_merges_in_order (content logger trace room : String)
    (window : Window) :
    let recording := Recording.read content
    let repaired := recording.repair logger trace window room
    let recovered := recover logger window (sortByTime recording.core) trace
    let front := (recording.header.map Record.header).toList ++
      repaired.records.map Record.core
    repaired.Merges window recording.core recovered ∧
    recovered.Sublist ((readAll logger trace).map Recovered.record) ∧
    repaired.recovered = recovered.length ∧
    linesOf repaired.recordLines.toList =
      (front ++ [Record.footer repaired.footer]).map Record.lineLetters ∧
    (Recording.readLines repaired.recordLines.toList).map Prod.snd =
      (front ++ [Record.footer ⟨repaired.footer.endedAt.wholeSecond⟩]).map .ok ∧
    repaired.EndsAfter window recording.footer := by
  intro recording repaired recovered front
  have whole : recording.IsWhole := Recording.isWhole_read content
  have text : repaired.recordLines =
      recordText (front ++ [.footer repaired.footer]) := rfl
  have readable : ∀ record ∈ repaired.asRecording.records,
      record.time.IsWhole :=
    Recording.isWhole_records (isWhole_asRecording whole)
  refine ⟨merges_repair, recover_sublist _, rfl, ?_, ?_,
    endsAfter_repair whole⟩
  · rw [text, Recording.linesOf_recordText]
  · rw [recordLines_eq, Recording.readLines_recordText readable]
    rfl

end MeetingLog
