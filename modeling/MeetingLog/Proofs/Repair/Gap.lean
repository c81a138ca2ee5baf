import MeetingLog.Repair.Merge
import MeetingLog.Proofs.Calendar.Moment

/-!
# Gaps of sorted records

Sorting keeps the records and puts them in order. Records of equal times keep
the order they had, and so do all records that are in order. A gap lies between
two neighbours, and where records in order leave a stretch of time empty between
an earlier and a later record, there are neighbours around this stretch.
-/

namespace MeetingLog

open MeetingLog.Calendar

/-! ## Sorting -/

/-- `IsOrdered records` means that no record has a later time than one behind
it. -/
def IsOrdered (records : List CoreRecord) : Prop :=
  records.Pairwise fun first second => first.time.rank ≤ second.time.rank

instance (records : List CoreRecord) : Decidable (IsOrdered records) :=
  inferInstanceAs (Decidable (List.Pairwise _ records))

theorem sortByTime_perm (records : List CoreRecord) :
    (sortByTime records).Perm records :=
  List.mergeSort_perm _ _

@[simp]
theorem mem_sortByTime {record : CoreRecord} {records : List CoreRecord} :
    record ∈ sortByTime records ↔ record ∈ records :=
  List.mem_mergeSort

theorem rank_le_trans (first second third : CoreRecord) :
    decide (first.time.rank ≤ second.time.rank) = true →
      decide (second.time.rank ≤ third.time.rank) = true →
        decide (first.time.rank ≤ third.time.rank) = true := by
  simp only [decide_eq_true_iff]
  exact Nat.le_trans

theorem rank_le_total (first second : CoreRecord) :
    (decide (first.time.rank ≤ second.time.rank) ||
      decide (second.time.rank ≤ first.time.rank)) = true := by
  rw [Bool.or_eq_true, decide_eq_true_iff, decide_eq_true_iff]
  exact Nat.le_total _ _

theorem isOrdered_sortByTime (records : List CoreRecord) :
    IsOrdered (sortByTime records) :=
  (List.pairwise_mergeSort rank_le_trans rank_le_total records).imp
    fun earlier => of_decide_eq_true earlier

/-- Records of equal times keep the order they had. -/
theorem filter_sortByTime (records : List CoreRecord) (time : ClockTime) :
    (sortByTime records).filter (fun record => record.time = time) =
      records.filter fun record => record.time = time := by
  have together : (records.filter fun record => record.time = time).Pairwise
      fun first second => decide (first.time.rank ≤ second.time.rank) := by
    refine List.pairwise_of_forall_mem_list fun first inFront second behind => ?_
    have firstTime := of_decide_eq_true (List.mem_filter.1 inFront).2
    have secondTime := of_decide_eq_true (List.mem_filter.1 behind).2
    rw [firstTime, secondTime]
    exact decide_eq_true (Nat.le_refl _)
  have kept := (List.sublist_mergeSort rank_le_trans rank_le_total together
    List.filter_sublist).filter fun record => record.time = time
  rw [List.filter_filter] at kept
  simp only [Bool.and_self] at kept
  exact (kept.eq_of_length
    ((sortByTime_perm records).filter _).length_eq.symm).symm

theorem sortByTime_of_isOrdered {records : List CoreRecord}
    (ordered : IsOrdered records) : sortByTime records = records :=
  List.mergeSort_of_pairwise
    (List.Pairwise.imp (fun earlier => decide_eq_true earlier) ordered)

/-! ## Neighbours -/

/-- `AreNeighbours first second records` means that `second` directly follows
`first` somewhere among the records. -/
def AreNeighbours (first second : CoreRecord) (records : List CoreRecord) :
    Prop :=
  ∃ front back, records = front ++ first :: second :: back

theorem areNeighbours_cons_cons {first second head next : CoreRecord}
    {others : List CoreRecord} :
    AreNeighbours first second (head :: next :: others) ↔
      head = first ∧ next = second ∨
        AreNeighbours first second (next :: others) := by
  constructor
  · rintro ⟨front, back, equality⟩
    cases front with
    | nil =>
        obtain ⟨headSame, rest⟩ := List.cons.inj equality
        exact .inl ⟨headSame, (List.cons.inj rest).1⟩
    | cons c front =>
        exact .inr ⟨front, back, (List.cons.inj equality).2⟩
  · rintro (⟨rfl, rfl⟩ | ⟨front, back, equality⟩)
    · exact ⟨[], others, rfl⟩
    · exact ⟨head :: front, back, by rw [equality, List.cons_append]⟩

/-- Every record is at most as late as the first of two neighbours, or at least
as late as the second. -/
theorem AreNeighbours.apart {first second : CoreRecord}
    {records : List CoreRecord} (neighbours : AreNeighbours first second records)
    (ordered : IsOrdered records) {record : CoreRecord}
    (member : record ∈ records) :
    record.time.rank ≤ first.time.rank ∨
      second.time.rank ≤ record.time.rank := by
  obtain ⟨front, back, rfl⟩ := neighbours
  obtain ⟨-, pair, cross⟩ := List.pairwise_append.1 ordered
  obtain ⟨-, rest⟩ := List.pairwise_cons.1 pair
  obtain ⟨behind, -⟩ := List.pairwise_cons.1 rest
  rcases List.mem_append.1 member with (inFront | inBack)
  · exact .inl (cross record inFront first List.mem_cons_self)
  · rcases List.mem_cons.1 inBack with (rfl | inRest)
    · exact .inl (Nat.le_refl _)
    · rcases List.mem_cons.1 inRest with (rfl | inEnd)
      · exact .inr (Nat.le_refl _)
      · exact .inr (behind record inEnd)

theorem AreNeighbours.mem {first second : CoreRecord}
    {records : List CoreRecord}
    (neighbours : AreNeighbours first second records) :
    first ∈ records ∧ second ∈ records := by
  obtain ⟨front, back, rfl⟩ := neighbours
  simp

/-- A stretch of time that no record lies in has neighbours around it if some
record comes before it and some record behind it. -/
theorem exists_neighbours {records : List CoreRecord}
    (ordered : IsOrdered records) {lower upper : Nat} (proper : lower < upper)
    (empty : ∀ record ∈ records,
      record.time.rank ≤ lower ∨ upper ≤ record.time.rank)
    (before : ∃ record ∈ records, record.time.rank ≤ lower)
    (behind : ∃ record ∈ records, upper ≤ record.time.rank) :
    ∃ first second, AreNeighbours first second records ∧
      first.time.rank ≤ lower ∧ upper ≤ second.time.rank := by
  induction records with
  | nil =>
      obtain ⟨record, member, -⟩ := before
      exact absurd member List.not_mem_nil
  | cons head others inductionHypothesis =>
      obtain ⟨headFirst, othersOrdered⟩ := List.pairwise_cons.1 ordered
      have headLow : head.time.rank ≤ lower := by
        obtain ⟨record, member, low⟩ := before
        rcases List.mem_cons.1 member with (rfl | later)
        · exact low
        · exact Nat.le_trans (headFirst record later) low
      obtain ⟨last, lastMember, high⟩ := behind
      have lastLater : last ∈ others := by
        rcases List.mem_cons.1 lastMember with (rfl | later)
        · omega
        · exact later
      cases others with
      | nil => exact absurd lastLater List.not_mem_nil
      | cons next rest =>
          rcases empty next (by simp) with (low | nextHigh)
          · obtain ⟨first, second, neighbours, bounds⟩ :=
              inductionHypothesis othersOrdered
                (fun record member => empty record
                  (List.mem_cons_of_mem _ member))
                ⟨next, List.mem_cons_self, low⟩ ⟨last, lastLater, high⟩
            exact ⟨first, second,
              areNeighbours_cons_cons.2 (.inr neighbours), bounds⟩
          · exact ⟨head, next, ⟨[], rest, rfl⟩, headLow, nextHigh⟩

/-! ## Gaps -/

/-- Where moments are cut at one of them, their gaps are cut as well. -/
theorem findGaps_append (threshold : Int) (front : List Moment)
    (moment : Moment) (back : List Moment) :
    findGaps threshold (front ++ moment :: back) =
      findGaps threshold (front ++ [moment]) ++
        findGaps threshold (moment :: back) := by
  induction front with
  | nil => rfl
  | cons head others inductionHypothesis =>
      cases others with
      | nil =>
          simp only [List.nil_append, List.cons_append, findGaps]
          split <;> rfl
      | cons next rest =>
          simp only [List.cons_append, findGaps] at inductionHypothesis ⊢
          rw [inductionHypothesis]
          split <;> rfl

theorem mem_findGaps_cons_cons {threshold : Int} {head next : Moment}
    {others : List Moment} {gap : Gap} :
    gap ∈ findGaps threshold (head :: next :: others) ↔
      gap = ⟨head, next⟩ ∧ threshold < head.wholeSecondsApart next ∨
        gap ∈ findGaps threshold (next :: others) := by
  rw [findGaps]
  split
  · next long => simp only [List.mem_cons, long, and_true]
  · next short => simp only [short, and_false, false_or]

/-- A gap lasts longer than the threshold, and its ends are moments that follow
each other. -/
theorem mem_findGaps {threshold : Int} {moments : List Moment} {gap : Gap} :
    gap ∈ findGaps threshold moments ↔
      (∃ front back, moments = front ++ gap.start :: gap.finish :: back) ∧
        threshold < gap.start.wholeSecondsApart gap.finish := by
  constructor
  · intro found
    induction moments with
    | nil => exact absurd found List.not_mem_nil
    | cons head others inductionHypothesis =>
        cases others with
        | nil => exact absurd found List.not_mem_nil
        | cons next rest =>
            rcases mem_findGaps_cons_cons.1 found with ⟨rfl, long⟩ | later
            · exact ⟨⟨[], rest, rfl⟩, long⟩
            · obtain ⟨⟨front, back, equality⟩, long⟩ :=
                inductionHypothesis later
              exact ⟨⟨head :: front, back,
                by rw [equality, List.cons_append]⟩, long⟩
  · rintro ⟨⟨front, back, rfl⟩, long⟩
    rw [findGaps_append]
    exact List.mem_append_right _
      (mem_findGaps_cons_cons.2 (.inl ⟨rfl, long⟩))

/-- A gap of records lies between two neighbours that are far enough apart. -/
theorem mem_gapsOf {window : Window} {records : List CoreRecord} {gap : Gap} :
    gap ∈ gapsOf window records ↔
      ∃ first second, AreNeighbours first second records ∧
        gap = ⟨window.moment first.time, window.moment second.time⟩ ∧
        Gap.threshold < (window.moment first.time).wholeSecondsApart
          (window.moment second.time) := by
  rw [gapsOf, mem_findGaps]
  constructor
  · rintro ⟨⟨front, back, equality⟩, long⟩
    obtain ⟨before, rest, rfl, -, equality⟩ := List.map_eq_append_iff.1 equality
    obtain ⟨first, rest, rfl, start, equality⟩ := List.map_eq_cons_iff.1 equality
    obtain ⟨second, after, rfl, finish, -⟩ := List.map_eq_cons_iff.1 equality
    rw [← start, ← finish] at long
    exact ⟨first, second, ⟨before, after, rfl⟩, by rw [start, finish], long⟩
  · rintro ⟨first, second, ⟨before, after, rfl⟩, rfl, long⟩
    exact ⟨⟨_, _, List.map_append⟩, long⟩

end MeetingLog
