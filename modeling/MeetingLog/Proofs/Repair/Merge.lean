import MeetingLog.Proofs.Record.Recording
import MeetingLog.Proofs.Repair.Gap
import MeetingLog.Proofs.Trace.Recovery

/-!
# What a repair adds

The repaired recording holds the records it had and records of the trace that
can be missing, and it knows every record of the trace that can be missing.
-/

namespace MeetingLog

open MeetingLog.Calendar
open MeetingLog.Trace

/-! ## Adoption -/

theorem isKnown_eq_true_iff {seen : List Signature} {record : CoreRecord} :
    isKnown seen record = true ↔
      Signature.ofRecord record ∈ seen ∨
        ∃ earlier, Signature.ofPreviousSecond? record = some earlier ∧
          earlier ∈ seen := by
  rw [isKnown, Bool.or_eq_true, List.contains_iff_mem]
  cases Signature.ofPreviousSecond? record with
  | none => simp
  | some earlier => simp

theorem isKnown_mono {seen others : List Signature}
    (more : ∀ signature ∈ seen, signature ∈ others) {record : CoreRecord}
    (known : isKnown seen record = true) : isKnown others record = true := by
  rw [isKnown_eq_true_iff] at known ⊢
  rcases known with (same | ⟨earlier, found, member⟩)
  · exact .inl (more _ same)
  · exact .inr ⟨earlier, found, more _ member⟩

theorem adopt_sublist (seen : List Signature) (candidates : List CoreRecord) :
    (adopt seen candidates).Sublist candidates := by
  induction candidates generalizing seen with
  | nil => exact .slnil
  | cons record others inductionHypothesis =>
      rw [adopt]
      split
      · exact (inductionHypothesis seen).cons record
      · exact (inductionHypothesis _).cons_cons record

theorem isKnown_of_adopt (seen : List Signature)
    (candidates : List CoreRecord) {others : List Signature}
    (seenToo : ∀ signature ∈ seen, signature ∈ others)
    (adopted : ∀ record ∈ adopt seen candidates,
      Signature.ofRecord record ∈ others) :
    ∀ record ∈ candidates, isKnown others record = true := by
  induction candidates generalizing seen with
  | nil => nofun
  | cons head rest inductionHypothesis =>
      intro record member
      rw [adopt] at adopted
      split at adopted
      · next known =>
          rcases List.mem_cons.1 member with (rfl | later)
          · exact isKnown_mono seenToo known
          · exact inductionHypothesis seen seenToo adopted record later
      · have headSeen := adopted head List.mem_cons_self
        rcases List.mem_cons.1 member with (rfl | later)
        · exact isKnown_eq_true_iff.2 (.inl headSeen)
        · refine inductionHypothesis _ (fun signature found => ?_)
            (fun other found => adopted other (List.mem_cons_of_mem _ found))
            record later
          rcases List.mem_cons.1 found with (rfl | earlier)
          · exact headSeen
          · exact seenToo signature earlier

theorem adopt_eq_nil {seen : List Signature} {candidates : List CoreRecord}
    (known : ∀ record ∈ candidates, isKnown seen record = true) :
    adopt seen candidates = [] := by
  induction candidates with
  | nil => rfl
  | cons head rest inductionHypothesis =>
      rw [adopt, if_pos (known head List.mem_cons_self)]
      exact inductionHypothesis fun record member =>
        known record (List.mem_cons_of_mem _ member)

/-! ## Missable moments -/

/-- A missable moment lies between two neighbours of the date. -/
theorem isMissable_iff {window : Window} {records : List CoreRecord}
    {moment : Moment} :
    isMissable window (gapsOf window records) moment = true ↔
      window.contains moment = true ∧
        moment = window.moment moment.time ∧
        ∃ first second, AreNeighbours first second records ∧
          first.time.rank < moment.time.rank ∧
          moment.time.rank < second.time.rank ∧
          Gap.threshold < (window.moment first.time).wholeSecondsApart
            (window.moment second.time) := by
  rw [isMissable, Bool.and_eq_true, List.any_eq_true]
  constructor
  · rintro ⟨inside, gap, member, within⟩
    obtain ⟨first, second, neighbours, rfl, long⟩ := mem_gapsOf.1 member
    obtain ⟨behind, before⟩ := Bool.and_eq_true_iff.1 within
    have place : moment = window.moment moment.time :=
      Moment.eq_atTime behind before
    rw [place] at behind before
    exact ⟨inside, place, first, second, neighbours,
      (Moment.before_atTime _ _ _).1 behind,
      (Moment.before_atTime _ _ _).1 before, long⟩
  · rintro ⟨inside, place, first, second, neighbours, behind, before, long⟩
    refine ⟨inside, _, mem_gapsOf.2 ⟨first, second, neighbours, rfl, long⟩, ?_⟩
    rw [Gap.contains, Bool.and_eq_true, place]
    exact ⟨(Moment.before_atTime _ _ _).2 behind,
      (Moment.before_atTime _ _ _).2 before⟩

/-! ## The repaired records -/

section

variable {recording : Recording} {logger trace room : String} {window : Window}

theorem mem_repair {record : CoreRecord} :
    record ∈ (recording.repair logger trace window room).records ↔
      record ∈ recording.core ∨
        record ∈ recover logger window (sortByTime recording.core) trace := by
  show record ∈ sortByTime _ ↔ _
  rw [mem_sortByTime, List.mem_append, mem_sortByTime]

theorem isOrdered_repair :
    IsOrdered (recording.repair logger trace window room).records :=
  isOrdered_sortByTime _

/-- A recovered record comes from an entry of the trace that can be
missing. -/
theorem exists_entry_of_mem_recover {sorted : List CoreRecord}
    {record : CoreRecord} (member : record ∈ recover logger window sorted trace) :
    ∃ entry ∈ readAll logger trace, entry.record = record ∧
      isMissable window (gapsOf window sorted) entry.loggedAt = true := by
  have candidate := (adopt_sublist _ _).mem member
  obtain ⟨entry, found, rfl⟩ := List.mem_map.1 candidate
  obtain ⟨inTrace, missable⟩ := List.mem_filter.1 found
  exact ⟨entry, inTrace, rfl, missable⟩

/-- Every record of the trace that can be missing is known to the repaired
recording. -/
theorem isKnown_repair {entry : Recovered}
    (member : entry ∈ readAll logger trace)
    (missable : isMissable window
      (gapsOf window (sortByTime recording.core)) entry.loggedAt = true) :
    isKnown ((recording.repair logger trace window room).records.map
      Signature.ofRecord) entry.record = true := by
  refine isKnown_of_adopt
    ((sortByTime recording.core).map Signature.ofRecord)
    (((readAll logger trace).filter fun entry =>
      isMissable window (gapsOf window (sortByTime recording.core))
        entry.loggedAt).map (·.record))
    (fun signature found => ?_) (fun record found => ?_) entry.record ?_
  · obtain ⟨record, inCore, rfl⟩ := List.mem_map.1 found
    exact List.mem_map_of_mem (mem_repair.2 (.inl (mem_sortByTime.1 inCore)))
  · exact List.mem_map_of_mem (mem_repair.2 (.inr found))
  · exact List.mem_map_of_mem (List.mem_filter.2 ⟨member, missable⟩)

end

end MeetingLog
