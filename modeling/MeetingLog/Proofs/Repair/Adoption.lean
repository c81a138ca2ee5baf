import MeetingLog.Proofs.Calendar.Later
import MeetingLog.Proofs.Repair.Merge

/-!
# What is adopted

A repair adopts, in the order of the trace, the records that can be missing and
that nothing before them tells of. None of them is told twice, and each record
of the trace that can be missing is told by the repaired recording. A lifecycle
record may be told a second too early there; on the day of the window this
second never lies behind the record, for nothing can be missing at midnight.
-/

namespace MeetingLog

open MeetingLog.Calendar
open MeetingLog.Trace

/-! ## Being known among records -/

/-- `HasSecondEarlier records record` means that the records hold the event of
the lifecycle record `record` with the time one second earlier. -/
def HasSecondEarlier (records : List CoreRecord) (record : CoreRecord) :
    Prop :=
  ∃ lifecycle, record = .lifecycle lifecycle ∧
    .lifecycle { lifecycle with time := lifecycle.time.previousSecond } ∈
      records

theorem ofRecord_eq_change {record : CoreRecord} (lifecycle : Lifecycle) :
    Signature.ofRecord record =
        ⟨lifecycle.time, lifecycle.participant, .change lifecycle.kind⟩ ↔
      record = .lifecycle lifecycle := by
  cases record with
  | lifecycle other =>
      obtain ⟨time, participant, kind⟩ := lifecycle
      obtain ⟨otherTime, otherParticipant, otherKind⟩ := other
      simp [Signature.ofRecord]
  | transcript transcript => simp [Signature.ofRecord]

theorem isKnown_map_iff {records : List CoreRecord} {record : CoreRecord} :
    isKnown (records.map Signature.ofRecord) record = true ↔
      Signature.ofRecord record ∈ records.map Signature.ofRecord ∨
        HasSecondEarlier records record := by
  rw [isKnown_eq_true_iff]
  refine or_congr_right ?_
  cases record with
  | transcript transcript =>
      simp [Signature.ofPreviousSecond?, HasSecondEarlier]
  | lifecycle lifecycle =>
      constructor
      · rintro ⟨earlier, equality, member⟩
        obtain rfl := Option.some.inj equality
        obtain ⟨found, inRecords, same⟩ := List.mem_map.1 member
        obtain rfl := (ofRecord_eq_change
          { lifecycle with time := lifecycle.time.previousSecond }).1 same
        exact ⟨lifecycle, rfl, inRecords⟩
      · rintro ⟨other, equality, member⟩
        obtain rfl := CoreRecord.lifecycle.inj equality
        exact ⟨_, rfl, List.mem_map_of_mem member⟩

/-! ## Adopted records are new -/

/-- An adopted record was known neither before nor from the records adopted in
front of it. -/
theorem isKnown_of_adopt_eq {seen : List Signature}
    {candidates front back : List CoreRecord} {record : CoreRecord}
    (adopted : adopt seen candidates = front ++ record :: back) :
    isKnown (front.map Signature.ofRecord ++ seen) record = false := by
  induction candidates generalizing seen front with
  | nil =>
      have length := congrArg List.length adopted
      simp [adopt] at length
  | cons head others inductionHypothesis =>
      rw [adopt] at adopted
      split at adopted
      · exact inductionHypothesis adopted
      · next unknown =>
          cases front with
          | nil =>
              obtain ⟨rfl, -⟩ := List.cons.inj adopted
              exact Bool.eq_false_iff.2 unknown
          | cons first front =>
              obtain ⟨rfl, rest⟩ := List.cons.inj adopted
              have unknownBehind := inductionHypothesis rest
              refine Bool.eq_false_iff.2 fun known => ?_
              -- The signature of the first record was added to the ones seen.
              have knownBehind : isKnown (front.map Signature.ofRecord ++
                  Signature.ofRecord head :: seen) record = true :=
                isKnown_mono (fun signature member =>
                  List.perm_middle.mem_iff.2 member) known
              rw [unknownBehind] at knownBehind
              cases knownBehind

theorem ofRecord_not_mem_of_adopt {seen : List Signature}
    {candidates : List CoreRecord} {record : CoreRecord}
    (member : record ∈ adopt seen candidates) :
    Signature.ofRecord record ∉ seen := by
  obtain ⟨front, back, adopted⟩ := List.append_of_mem member
  intro inSeen
  have unknown := isKnown_of_adopt_eq adopted
  rw [isKnown_eq_true_iff.2
    (.inl (List.mem_append_right _ inSeen))] at unknown
  cases unknown

theorem nodup_adopt (seen : List Signature) (candidates : List CoreRecord) :
    ((adopt seen candidates).map Signature.ofRecord).Nodup := by
  induction candidates generalizing seen with
  | nil => exact List.nodup_nil
  | cons head others inductionHypothesis =>
      rw [adopt]
      split
      · exact inductionHypothesis seen
      · rw [List.map_cons, List.nodup_cons]
        refine ⟨fun member => ?_, inductionHypothesis _⟩
        obtain ⟨record, adopted, same⟩ := List.mem_map.1 member
        have notSeen := ofRecord_not_mem_of_adopt adopted
        rw [same] at notSeen
        exact notSeen List.mem_cons_self

/-! ## Missable moments -/

/-- `CanLack window gaps moment` means that a record noted at the moment could
be missing: the moment lies in the window, both ends included, and strictly
between the ends of one of the gaps. -/
def CanLack (window : Window) (gaps : List Gap) (moment : Moment) : Prop :=
  (window.start.atMost moment = true ∧ moment.atMost window.finish = true) ∧
    ∃ gap ∈ gaps,
      gap.start.before moment = true ∧ moment.before gap.finish = true

/-- `Tells window records entry` means that one of the records has the signature
of the entry, or is the same coming or going one second earlier on the same
day. -/
def Tells (window : Window) (records : List CoreRecord) (entry : Recovered) :
    Prop :=
  Signature.ofRecord entry.record ∈ records.map Signature.ofRecord ∨
    HasSecondEarlier records entry.record ∧
      ∃ lifecycle, entry.record = .lifecycle lifecycle ∧
        (lifecycle.kind = .joined ∨ lifecycle.kind = .left) ∧
        (window.moment lifecycle.time.previousSecond).before
          entry.loggedAt = true

theorem canLack_iff {window : Window} {gaps : List Gap} {moment : Moment} :
    CanLack window gaps moment ↔ isMissable window gaps moment = true := by
  simp only [isMissable, Window.contains, Bool.and_eq_true, List.any_eq_true,
    Gap.contains]
  rfl

section

variable {recording : Recording} {logger trace room : String} {window : Window}

/-- A lifecycle record that can be missing is not from midnight, so that one
second earlier is still the same day. -/
theorem before_of_isMissable {records : List CoreRecord} {entry : Recovered}
    (timed : entry.IsTimed) {lifecycle : Lifecycle}
    (presence : entry.record = .lifecycle lifecycle)
    (missable : isMissable window (gapsOf window records) entry.loggedAt =
      true) :
    (window.moment lifecycle.time.previousSecond).before entry.loggedAt =
      true := by
  obtain ⟨-, place, first, second, -, behind, -, -⟩ :=
    isMissable_iff.1 missable
  have time : lifecycle.time = entry.loggedAt.time :=
    timed.presence lifecycle presence
  have notMidnight : 0 < entry.loggedAt.time.rank :=
    Nat.lt_of_le_of_lt (Nat.zero_le _) behind
  rw [place, time]
  exact (Moment.before_atTime _ _ _).2
    (ClockTime.rank_previousSecond_lt timed.logged notMidnight)

/-- The repaired recording tells of every entry of the trace that could be
missing. -/
theorem tells_repair {entry : Recovered} (member : entry ∈ readAll logger trace)
    (missing : CanLack window (gapsOf window (sortByTime recording.core))
      entry.loggedAt) :
    Tells window (recording.repair logger trace window room).records entry := by
  have missable := canLack_iff.1 missing
  have told : isKnown ((recording.repair logger trace window
      room).records.map Signature.ofRecord) entry.record = true :=
    isKnown_repair member missable
  rcases isKnown_map_iff.1 told with (same | earlier)
  · exact .inl same
  · obtain ⟨lifecycle, presence, -⟩ := id earlier
    exact .inr ⟨earlier, lifecycle, presence, kind_readAll member presence,
      before_of_isMissable (isTimed_readAll member) presence missable⟩

theorem records_repair_perm :
    (recording.repair logger trace window room).records.Perm
      (recording.core ++
        recover logger window (sortByTime recording.core) trace) :=
  (sortByTime_perm _).trans ((sortByTime_perm _).append_right _)

/-- What is recovered are the records of entries of the trace that could be
missing. -/
theorem exists_entries_of_recover (recording : Recording)
    (logger trace : String) (window : Window) :
    ∃ admitted : List Recovered,
      admitted.Sublist (readAll logger trace) ∧
        (∀ entry ∈ admitted,
          CanLack window (gapsOf window (sortByTime recording.core))
            entry.loggedAt) ∧
        recover logger window (sortByTime recording.core) trace =
          admitted.map Recovered.record := by
  obtain ⟨admitted, candidates, records⟩ :=
    List.sublist_map_iff.1 (adopt_sublist
      ((sortByTime recording.core).map Signature.ofRecord)
      (((readAll logger trace).filter fun entry =>
        isMissable window (gapsOf window (sortByTime recording.core))
          entry.loggedAt).map Recovered.record))
  refine ⟨admitted, candidates.trans List.filter_sublist, ?_, records⟩
  intro entry member
  exact canLack_iff.2 (List.mem_filter.1 (candidates.mem member)).2

/-- A recovered record is not known from the recording, nor from what was
recovered in front of it. -/
theorem isKnown_of_recover_eq {front back : List CoreRecord}
    {record : CoreRecord}
    (recovered : recover logger window (sortByTime recording.core) trace =
      front ++ record :: back) :
    isKnown ((recording.core ++ front).map Signature.ofRecord) record =
      false := by
  refine Bool.eq_false_iff.2 fun known => ?_
  have unknown := isKnown_of_adopt_eq recovered
  rw [← List.map_append] at unknown
  rw [isKnown_mono (fun signature member => ?_) known] at unknown
  · cases unknown
  · obtain ⟨other, inRecords, rfl⟩ := List.mem_map.1 member
    refine List.mem_map_of_mem ?_
    rcases List.mem_append.1 inRecords with (inCore | inFront)
    · exact List.mem_append_right _ (mem_sortByTime.2 inCore)
    · exact List.mem_append_left _ inFront

end

/-- A repair adds exactly the records that are missing. It finds the gaps between
existing records that follow one another in time and are more than a minute
apart. It adds the records of entries of the trace that were noted in the window
and strictly inside such a gap, each of them new and none of them twice, until
every such entry is told. -/
theorem repair_adds_exactly_what_is_missing (recording : Recording)
    (logger trace room : String) (window : Window) :
    let gaps := gapsOf window (sortByTime recording.core)
    let repaired := recording.repair logger trace window room
    (∀ gap, gap ∈ gaps ↔
      ∃ first second,
        AreNeighbours first second (sortByTime recording.core) ∧
        gap = ⟨window.moment first.time, window.moment second.time⟩ ∧
        60 < gap.seconds) ∧
    repaired.gaps = gaps ∧
    ∃ admitted : List Recovered,
      admitted.Sublist (readAll logger trace) ∧
        (∀ entry ∈ admitted, CanLack window gaps entry.loggedAt) ∧
        repaired.records.Perm
          (recording.core ++ admitted.map Recovered.record) ∧
        repaired.recovered = admitted.length ∧
        repaired.recovered =
          repaired.records.length - recording.core.length ∧
        ((admitted.map Recovered.record).map Signature.ofRecord).Nodup ∧
        (∀ entry ∈ admitted, Signature.ofRecord entry.record ∉
          recording.core.map Signature.ofRecord) ∧
        (∀ front entry back, admitted = front ++ entry :: back →
          ¬ HasSecondEarlier
            (recording.core ++ front.map Recovered.record) entry.record) ∧
        ∀ entry ∈ readAll logger trace, CanLack window gaps entry.loggedAt →
          Tells window repaired.records entry := by
  intro gaps repaired
  obtain ⟨admitted, inTrace, missing, records⟩ :=
    exists_entries_of_recover recording logger trace window
  have rearranged : repaired.records.Perm
      (recording.core ++ admitted.map Recovered.record) := by
    rw [← records]
    exact records_repair_perm
  have counted : repaired.recovered = admitted.length := by
    show (recover logger window (sortByTime recording.core) trace).length = _
    rw [records, List.length_map]
  have unknown (front : List Recovered) (entry : Recovered)
      (back : List Recovered) (split : admitted = front ++ entry :: back) :
      isKnown ((recording.core ++ front.map Recovered.record).map
        Signature.ofRecord) entry.record = false := by
    have cut : recover logger window (sortByTime recording.core) trace =
        front.map Recovered.record ++
          entry.record :: back.map Recovered.record := by
      rw [records, split, List.map_append, List.map_cons]
    exact isKnown_of_recover_eq cut
  refine ⟨fun gap => ?_, rfl, admitted, inTrace, missing, rearranged, counted,
    ?_, ?_, ?_, ?_, ?_⟩
  · rw [mem_gapsOf]
    constructor
    · rintro ⟨first, second, neighbours, rfl, long⟩
      exact ⟨first, second, neighbours, rfl, long⟩
    · rintro ⟨first, second, neighbours, rfl, long⟩
      exact ⟨first, second, neighbours, rfl, long⟩
  · have length := rearranged.length_eq
    rw [List.length_append, List.length_map] at length
    omega
  · rw [← records]
    exact nodup_adopt _ _
  · intro entry member inCore
    obtain ⟨front, back, split⟩ := List.append_of_mem member
    have new := unknown front entry back split
    rw [List.map_append, isKnown_eq_true_iff.2
      (.inl (List.mem_append_left _ inCore))] at new
    cases new
  · intro front entry back split earlier
    have new := unknown front entry back split
    rw [isKnown_map_iff.2 (.inr earlier)] at new
    cases new
  · exact fun entry member => tells_repair member

end MeetingLog
