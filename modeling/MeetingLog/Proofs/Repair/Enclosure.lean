import MeetingLog.Proofs.Repair.Gap

/-!
# Moments inside gaps

A gap is found around a moment exactly when the moments next to it, on either
side, are far enough apart. The gaps of moments in ascending order come in the
same order, do not overlap, and hold none of these moments.
-/

namespace MeetingLog

open MeetingLog.Calendar

/-! ## Moments in ascending order -/

/-- `IsAscending moments` means that no moment is later than one behind it. -/
def IsAscending (moments : List Moment) : Prop :=
  moments.Pairwise fun first second => first.atMost second = true

instance (moments : List Moment) : Decidable (IsAscending moments) :=
  inferInstanceAs (Decidable (List.Pairwise _ moments))

/-- `IsLatestBefore moment moments earlier` means that `earlier` is among the
moments and before `moment`, and that no later one of them is. -/
structure IsLatestBefore (moment : Moment) (moments : List Moment)
    (earlier : Moment) : Prop where
  mem : earlier ∈ moments
  before : earlier.before moment = true
  latest : ∀ other ∈ moments, other.before moment = true →
    other.atMost earlier = true

/-- `IsEarliestAfter moment moments later` means that `later` is among the
moments and after `moment`, and that no earlier one of them is. -/
structure IsEarliestAfter (moment : Moment) (moments : List Moment)
    (later : Moment) : Prop where
  mem : later ∈ moments
  after : moment.before later = true
  earliest : ∀ other ∈ moments, moment.before other = true →
    later.atMost other = true

variable {threshold : Int} {moments front back : List Moment}
  {moment earlier later : Moment} {gap : Gap}

theorem IsLatestBefore.eq {other : Moment}
    (latest : IsLatestBefore moment moments earlier)
    (latestToo : IsLatestBefore moment moments other) : earlier = other := by
  have upper := latest.latest other latestToo.mem latestToo.before
  have lower := latestToo.latest earlier latest.mem latest.before
  rw [Moment.atMost_iff] at upper lower
  exact Moment.eq_of_rank (by omega)

theorem IsEarliestAfter.eq {other : Moment}
    (earliest : IsEarliestAfter moment moments later)
    (earliestToo : IsEarliestAfter moment moments other) : later = other := by
  have lower := earliest.earliest other earliestToo.mem earliestToo.after
  have upper := earliestToo.earliest later earliest.mem earliest.after
  rw [Moment.atMost_iff] at upper lower
  exact Moment.eq_of_rank (by omega)

/-- In ascending order, nothing lies between two moments that follow each
other. -/
theorem IsAscending.apart
    (ascending : IsAscending (front ++ earlier :: later :: back))
    {other : Moment} (member : other ∈ front ++ earlier :: later :: back) :
    other.rank ≤ earlier.rank ∨ later.rank ≤ other.rank := by
  obtain ⟨-, rest, cross⟩ := List.pairwise_append.1 ascending
  obtain ⟨-, behind⟩ := List.pairwise_cons.1 rest
  obtain ⟨after, -⟩ := List.pairwise_cons.1 behind
  rcases List.mem_append.1 member with inFront | inRest
  · exact .inl (Moment.atMost_iff.1
      (cross other inFront earlier List.mem_cons_self))
  · rcases List.mem_cons.1 inRest with rfl | inBehind
    · exact .inl (Int.le_refl _)
    · rcases List.mem_cons.1 inBehind with rfl | inBack
      · exact .inr (Int.le_refl _)
      · exact .inr (Moment.atMost_iff.1 (after other inBack))

/-- Of two moments that follow each other with a moment between them, one is the
latest before it and the other the earliest after it. -/
theorem IsAscending.nearest
    (ascending : IsAscending (front ++ earlier :: later :: back))
    (before : earlier.before moment = true)
    (after : moment.before later = true) :
    IsLatestBefore moment (front ++ earlier :: later :: back) earlier ∧
      IsEarliestAfter moment (front ++ earlier :: later :: back) later := by
  rw [Moment.before_iff] at before after
  refine ⟨⟨by simp, Moment.before_iff.2 before, fun other member lower => ?_⟩,
    ⟨by simp, Moment.before_iff.2 after, fun other member upper => ?_⟩⟩
  · rw [Moment.before_iff] at lower
    rw [Moment.atMost_iff]
    rcases ascending.apart member with low | high
    · exact low
    · omega
  · rw [Moment.before_iff] at upper
    rw [Moment.atMost_iff]
    rcases ascending.apart member with low | high
    · omega
    · exact high

/-- Moments in ascending order can be cut where another moment would stand
between two of them. -/
theorem IsAscending.exists_cut (ascending : IsAscending moments)
    (absent : moment ∉ moments)
    (before : ∃ other ∈ moments, other.before moment = true)
    (after : ∃ other ∈ moments, moment.before other = true) :
    ∃ front earlier later back, moments = front ++ earlier :: later :: back ∧
      earlier.before moment = true ∧ moment.before later = true := by
  induction moments with
  | nil =>
      obtain ⟨other, member, -⟩ := before
      exact absurd member List.not_mem_nil
  | cons head others inductionHypothesis =>
      obtain ⟨first, othersAscending⟩ := List.pairwise_cons.1 ascending
      have headBefore : head.before moment = true := by
        obtain ⟨other, member, lower⟩ := before
        rcases List.mem_cons.1 member with rfl | inOthers
        · exact lower
        · have order := Moment.atMost_iff.1 (first other inOthers)
          rw [Moment.before_iff] at lower ⊢
          omega
      obtain ⟨last, member, upper⟩ := after
      have inOthers : last ∈ others := by
        rcases List.mem_cons.1 member with rfl | inOthers
        · rw [Moment.before_iff] at headBefore upper
          omega
        · exact inOthers
      cases others with
      | nil => exact absurd inOthers List.not_mem_nil
      | cons next rest =>
          by_cases nextBefore : next.before moment = true
          · obtain ⟨front, earlier, later, back, equality, around⟩ :=
              inductionHypothesis othersAscending
                (fun member => absent (List.mem_cons_of_mem _ member))
                ⟨next, List.mem_cons_self, nextBefore⟩ ⟨last, inOthers, upper⟩
            exact ⟨head :: front, earlier, later, back,
              by rw [equality, List.cons_append], around⟩
          · refine ⟨[], head, next, rest, rfl, headBefore, ?_⟩
            have different : moment.rank ≠ next.rank := fun same =>
              absent (by simp [Moment.eq_of_rank same])
            rw [Moment.before_iff] at nextBefore ⊢
            omega

/-! ## Gaps around a moment -/

theorem Gap.contains_iff :
    gap.contains moment = true ↔
      gap.start.rank < moment.rank ∧ moment.rank < gap.finish.rank := by
  rw [Gap.contains, Bool.and_eq_true, Moment.before_iff, Moment.before_iff]

theorem ends_mem_of_mem_findGaps (found : gap ∈ findGaps threshold moments) :
    gap.start ∈ moments ∧ gap.finish ∈ moments := by
  obtain ⟨⟨front, back, rfl⟩, -⟩ := mem_findGaps.1 found
  exact ⟨by simp, by simp⟩

/-- The gaps of moments that end with one of them are over when it comes. -/
theorem IsAscending.finish_le
    (ascending : IsAscending (front ++ moment :: back))
    (found : gap ∈ findGaps threshold (front ++ [moment])) :
    gap.finish.rank ≤ moment.rank := by
  obtain ⟨-, finish⟩ := ends_mem_of_mem_findGaps found
  obtain ⟨-, -, cross⟩ := List.pairwise_append.1 ascending
  rcases List.mem_append.1 finish with inFront | last
  · exact Moment.atMost_iff.1 (cross _ inFront moment List.mem_cons_self)
  · exact Int.le_of_eq (congrArg Moment.rank (List.mem_singleton.1 last))

/-- The gaps of moments that begin with one of them do not start before it. -/
theorem IsAscending.start_ge (ascending : IsAscending (front ++ moment :: back))
    (found : gap ∈ findGaps threshold (moment :: back)) :
    moment.rank ≤ gap.start.rank := by
  obtain ⟨start, -⟩ := ends_mem_of_mem_findGaps found
  obtain ⟨-, rest, -⟩ := List.pairwise_append.1 ascending
  rcases List.mem_cons.1 start with same | inBack
  · exact Int.le_of_eq (congrArg Moment.rank same.symm)
  · exact Moment.atMost_iff.1 ((List.pairwise_cons.1 rest).1 _ inBack)

/-- No gap contains one of the moments themselves. -/
theorem IsAscending.not_contains (ascending : IsAscending moments)
    (member : moment ∈ moments) (found : gap ∈ findGaps threshold moments) :
    gap.contains moment = false := by
  obtain ⟨front, back, rfl⟩ := List.append_of_mem member
  rw [findGaps_append] at found
  rw [Bool.eq_false_iff, ne_eq, Gap.contains_iff]
  rcases List.mem_append.1 found with inFront | inBack
  · have ended := ascending.finish_le inFront
    omega
  · have begun := ascending.start_ge inBack
    omega

/-- Around a moment that stands between two of the moments there is one gap, if
these are far enough apart, and none otherwise. -/
theorem IsAscending.filter_contains
    (ascending : IsAscending (front ++ earlier :: later :: back))
    (before : earlier.before moment = true)
    (after : moment.before later = true) :
    (findGaps threshold (front ++ earlier :: later :: back)).filter
        (fun gap => gap.contains moment) =
      if threshold < earlier.wholeSecondsApart later then [⟨earlier, later⟩]
      else [] := by
  have inside : Gap.contains ⟨earlier, later⟩ moment = true := by
    rw [Gap.contains, before, after]
    rfl
  rw [Moment.before_iff] at before after
  have shape : front ++ earlier :: later :: back =
      (front ++ [earlier]) ++ later :: back := by simp
  have none : ∀ gap ∈ findGaps threshold (front ++ [earlier]),
      ¬ gap.contains moment = true := by
    intro gap found contains
    have ended := ascending.finish_le found
    rw [Gap.contains_iff] at contains
    omega
  have noneToo : ∀ gap ∈ findGaps threshold (later :: back),
      ¬ gap.contains moment = true := by
    intro gap found contains
    rw [shape] at ascending
    have begun := ascending.start_ge found
    rw [Gap.contains_iff] at contains
    omega
  rw [findGaps_append, List.filter_append, List.filter_eq_nil_iff.2 none,
    List.nil_append, findGaps]
  split
  · rw [List.filter_cons, if_pos inside, List.filter_eq_nil_iff.2 noneToo]
  · exact List.filter_eq_nil_iff.2 noneToo

/-! ## Gaps in order -/

/-- Every gap is over when the next one begins. -/
theorem IsAscending.gaps_apart (ascending : IsAscending moments) :
    (findGaps threshold moments).Pairwise fun first second =>
      first.finish.rank ≤ second.start.rank := by
  induction moments with
  | nil => exact List.Pairwise.nil
  | cons head others inductionHypothesis =>
      cases others with
      | nil => exact List.Pairwise.nil
      | cons next rest =>
          have restAscending := (List.pairwise_cons.1 ascending).2
          have further := inductionHypothesis restAscending
          rw [findGaps]
          split
          · refine List.pairwise_cons.2 ⟨fun gap found => ?_, further⟩
            have fromNext : IsAscending ([] ++ next :: rest) := restAscending
            exact fromNext.start_ge found
          · exact further

/-- A gap that lasts longer than no time at all ends after it starts. -/
theorem IsAscending.gap_proper (ascending : IsAscending moments)
    (notNegative : 0 ≤ threshold) (found : gap ∈ findGaps threshold moments) :
    gap.start.rank < gap.finish.rank := by
  obtain ⟨⟨front, back, equality⟩, long⟩ := mem_findGaps.1 found
  have order : gap.start.rank ≤ gap.finish.rank := by
    rw [equality] at ascending
    obtain ⟨-, rest, -⟩ := List.pairwise_append.1 ascending
    exact Moment.atMost_iff.1
      ((List.pairwise_cons.1 rest).1 _ List.mem_cons_self)
  have different : gap.start.rank ≠ gap.finish.rank := by
    intro same
    rw [Moment.eq_of_rank same, Moment.wholeSecondsApart_self] at long
    omega
  omega

theorem IsAscending.gaps_ordered (ascending : IsAscending moments)
    (notNegative : 0 ≤ threshold) :
    (findGaps threshold moments).Pairwise fun first second =>
      first.start.before second.start = true ∧
        first.finish.atMost second.start = true := by
  refine ascending.gaps_apart.imp_of_mem fun {first second} found _ order => ?_
  have proper := ascending.gap_proper notNegative found
  rw [Moment.before_iff, Moment.atMost_iff]
  exact ⟨by omega, order⟩

/-! ## Gaps and long silences -/

/-- If those next to a moment are far enough apart, they are the ends of the
only gap around it. -/
theorem IsAscending.only_gap (ascending : IsAscending moments)
    (absent : moment ∉ moments)
    (latest : IsLatestBefore moment moments earlier)
    (earliest : IsEarliestAfter moment moments later)
    (long : threshold < earlier.wholeSecondsApart later) :
    (findGaps threshold moments).filter (fun gap => gap.contains moment) =
      [⟨earlier, later⟩] := by
  obtain ⟨front, first, second, back, rfl, before, after⟩ :=
    ascending.exists_cut absent ⟨earlier, latest.mem, latest.before⟩
      ⟨later, earliest.mem, earliest.after⟩
  obtain ⟨latestToo, earliestToo⟩ := ascending.nearest before after
  obtain rfl := latest.eq latestToo
  obtain rfl := earliest.eq earliestToo
  rw [ascending.filter_contains before after, if_pos long]

/-- The ends of a gap around a moment are the moments next to it. -/
theorem IsAscending.nearest_of_contains (ascending : IsAscending moments)
    (found : gap ∈ findGaps threshold moments)
    (inside : gap.contains moment = true) :
    IsLatestBefore moment moments gap.start ∧
      IsEarliestAfter moment moments gap.finish := by
  obtain ⟨⟨front, back, equality⟩, -⟩ := mem_findGaps.1 found
  rw [Gap.contains, Bool.and_eq_true] at inside
  rw [equality] at ascending ⊢
  exact ascending.nearest inside.1 inside.2

/-- For moments in ascending order, some gap contains a given moment exactly
when it is not one of them and those next to it, the latest before and the
earliest after it, are farther apart than the threshold; then these are the ends
of the only gap around it. The gaps come in ascending order, each is over when
the next begins, and none contains one of the moments. -/
theorem gaps_are_long_silences (notNegative : 0 ≤ threshold)
    (ascending : IsAscending moments) :
    (∀ moment, (∃ gap ∈ findGaps threshold moments,
        gap.contains moment = true) ↔
      moment ∉ moments ∧ ∃ earlier later,
        IsLatestBefore moment moments earlier ∧
          IsEarliestAfter moment moments later ∧
            threshold < earlier.wholeSecondsApart later) ∧
    (∀ moment earlier later, moment ∉ moments →
      IsLatestBefore moment moments earlier →
        IsEarliestAfter moment moments later →
          threshold < earlier.wholeSecondsApart later →
            (findGaps threshold moments).filter
              (fun gap => gap.contains moment) = [⟨earlier, later⟩]) ∧
    ((findGaps threshold moments).Pairwise fun first second =>
      first.start.before second.start = true ∧
        first.finish.atMost second.start = true) ∧
    ∀ gap ∈ findGaps threshold moments, ∀ moment ∈ moments,
      gap.contains moment = false := by
  refine ⟨fun moment => ⟨?_, ?_⟩, fun _ _ _ => ascending.only_gap,
    ascending.gaps_ordered notNegative,
    fun gap found moment member => ascending.not_contains member found⟩
  · rintro ⟨gap, found, inside⟩
    obtain ⟨latest, earliest⟩ := ascending.nearest_of_contains found inside
    refine ⟨fun member => ?_, gap.start, gap.finish, latest, earliest,
      (mem_findGaps.1 found).2⟩
    rw [ascending.not_contains member found] at inside
    cases inside
  · rintro ⟨absent, earlier, later, latest, earliest, long⟩
    have member : (⟨earlier, later⟩ : Gap) ∈ (findGaps threshold
        moments).filter fun gap => gap.contains moment := by
      rw [ascending.only_gap absent latest earliest long]
      exact List.mem_singleton_self _
    obtain ⟨found, inside⟩ := List.mem_filter.1 member
    exact ⟨_, found, inside⟩

/-! ## A night with a leap second -/

def lastOf2016 : Date :=
  ⟨2016, .last 11, .last 30, by decide⟩

/-- The leap second at the end of the year 2016. -/
def leapSecond : Moment :=
  lastOf2016.atTime { ClockTime.endOfDay with second := .last 60 }

/-- The beginning of the year 2017. -/
def newYear : Moment :=
  lastOf2016.next.atTime .midnight

/-- Moments around a leap second, which is among them twice. From the first to
the leap second it is one minute, from there to the next moment more than a
minute, and from this one to the last a minute and a half second. -/
def aroundLeapSecond : List Moment :=
  [lastOf2016.atTime (.ofPlainSeconds 86340 0), leapSecond, leapSecond,
    newYear.later 61000, newYear.later 121500]

theorem one_gap_aroundLeapSecond :
    0 ≤ Gap.threshold ∧ IsAscending aroundLeapSecond ∧
      (findGaps Gap.threshold aroundLeapSecond).filter
          (fun gap => gap.contains newYear) =
        [⟨leapSecond, newYear.later 61000⟩] ∧
      ¬ ∃ gap ∈ findGaps Gap.threshold aroundLeapSecond,
        gap.contains (newYear.later 120000) = true := by
  have ascending : IsAscending aroundLeapSecond := by decide +kernel
  obtain ⟨around, only, -⟩ := gaps_are_long_silences
    (by decide : 0 ≤ Gap.threshold) ascending
  refine ⟨by decide, ascending, only _ _ _ (by decide +kernel)
    ⟨by decide +kernel, by decide +kernel, by decide +kernel⟩
    ⟨by decide +kernel, by decide +kernel, by decide +kernel⟩
    (by decide +kernel), fun found => ?_⟩
  obtain ⟨-, earlier, later, latest, earliest, long⟩ := (around _).1 found
  have first : IsLatestBefore (newYear.later 120000) aroundLeapSecond
      (newYear.later 61000) :=
    ⟨by decide +kernel, by decide +kernel, by decide +kernel⟩
  have second : IsEarliestAfter (newYear.later 120000) aroundLeapSecond
      (newYear.later 121500) :=
    ⟨by decide +kernel, by decide +kernel, by decide +kernel⟩
  rw [latest.eq first, earliest.eq second] at long
  exact absurd long (by decide +kernel)

end MeetingLog
