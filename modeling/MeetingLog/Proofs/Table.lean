import MeetingLog.Table
import Mathlib.Data.List.Basic

/-!
# Tables as functions

A table is known completely once it is known what every key leads to. The
entries other than that of one key are those of the table without the key, so
that a list made from the entries changes in one place when the table does.
-/

namespace MeetingLog.Table

variable {κ α β : Type} [LT κ]

theorem keys_ascending (table : Table κ α) : table.keys.Pairwise (· < ·) :=
  List.pairwise_map.2 table.ascending

/-! ## Lookups -/

section

variable [DecidableEq κ]

theorem get?_erase (table : Table κ α) (key other : κ) :
    (table.erase key).get? other =
      if other = key then none else table.get? other := by
  by_cases same : other = key
  · subst same
    simp
  · rw [get?_erase_of_ne table same, if_neg same]

theorem get?_map (table : Table κ α) (change : κ → α → β)
    (key : κ) :
    (table.map change).get? key = (table.get? key).map (change key) := by
  obtain ⟨entries, ascending⟩ := table
  simp only [get?, map]
  clear ascending
  induction entries with
  | nil => rfl
  | cons entry rest inductionHypothesis =>
      by_cases same : entry.1 = key
      · subst same
        simp [findEntry]
      · simpa [findEntry, same] using inductionHypothesis

@[simp]
theorem contains_empty (key : κ) :
    (empty : Table κ α).contains key = false :=
  rfl

@[simp]
theorem contains_erase (table : Table κ α) (key other : κ) :
    (table.erase key).contains other =
      (!decide (other = key) && table.contains other) := by
  rw [contains, get?_erase]
  split <;> simp_all [contains]

@[simp]
theorem contains_map (table : Table κ α) (change : κ → α → β)
    (key : κ) :
    (table.map change).contains key = table.contains key := by
  rw [contains, get?_map]
  simp [contains]

variable [DecidableLT κ] [IsKeyOrder κ]

theorem get?_insert (table : Table κ α) (key other : κ) (value : α) :
    (table.insert key value).get? other =
      if other = key then some value else table.get? other := by
  by_cases same : other = key
  · subst same
    simp
  · rw [get?_insert_of_ne table same, if_neg same]

theorem get?_modify (table : Table κ α) (key other : κ)
    (change : α → α) :
    (table.modify key change).get? other =
      if other = key then (table.get? key).map change
      else table.get? other := by
  unfold modify
  cases found : table.get? key with
  | none =>
      by_cases same : other = key
      · subst same
        simp [found]
      · simp [same]
  | some value => simp [get?_insert]

/-- What a value has in common with the one it replaces is there as before. -/
theorem map_get?_insert {table : Table κ α} {key : κ} {value changed : α}
    (part : α → β) (found : table.get? key = some value)
    (kept : part changed = part value) (other : κ) :
    ((table.insert key changed).get? other).map part =
      (table.get? other).map part := by
  rw [get?_insert]
  split
  · next same => rw [same, found, Option.map_some, Option.map_some, kept]
  · rfl

theorem map_get?_modify (table : Table κ α) (key : κ) {change : α → α}
    (part : α → β) (kept : ∀ value, part (change value) = part value)
    (other : κ) :
    ((table.modify key change).get? other).map part =
      (table.get? other).map part := by
  unfold modify
  cases found : table.get? key with
  | none => rfl
  | some value => exact map_get?_insert part found (kept value) other

@[simp]
theorem contains_insert (table : Table κ α) (key other : κ)
    (value : α) :
    (table.insert key value).contains other =
      (decide (other = key) || table.contains other) := by
  rw [contains, get?_insert]
  split <;> simp_all [contains]

@[simp]
theorem contains_modify (table : Table κ α) (key other : κ)
    (change : α → α) :
    (table.modify key change).contains other = table.contains other := by
  rw [contains, get?_modify]
  split
  · next same => simp [contains, same]
  · rfl

end

/-! ## What is true of everything in a table -/

section

variable [DecidableEq κ]

/-- `table.Holds fits` means that every value in the table fits its key. -/
def Holds (fits : κ → α → Prop) (table : Table κ α) : Prop :=
  ∀ key value, table.get? key = some value → fits key value

namespace Holds

variable {table : Table κ α} {fits fitsLater : κ → α → Prop} {key : κ}

theorem erase (holds : table.Holds fits) : (table.erase key).Holds fits := by
  intro other found member
  rw [get?_erase] at member
  split at member
  · cases member
  · exact holds _ _ member

theorem map {change : κ → α → β} {fitsLater : κ → β → Prop}
    (holds : table.Holds fits)
    (keeps : ∀ key value, table.get? key = some value → fits key value →
      fitsLater key (change key value)) :
    (table.map change).Holds fitsLater := by
  intro other found member
  rw [get?_map, Option.map_eq_some_iff] at member
  obtain ⟨before, present, rfl⟩ := member
  exact keeps other before present (holds _ _ present)

theorem mono (holds : table.Holds fits)
    (keeps : ∀ key value, fits key value → fitsLater key value) :
    table.Holds fitsLater :=
  fun key value present => keeps key value (holds key value present)

variable [DecidableLT κ] [IsKeyOrder κ]

theorem insert {value : α} (holds : table.Holds fits)
    (fitsNew : fitsLater key value)
    (keeps : ∀ other old, other ≠ key → fits other old →
      fitsLater other old) : (table.insert key value).Holds fitsLater := by
  intro other found member
  rw [get?_insert] at member
  split at member
  · next same =>
      obtain rfl := Option.some.inj member
      rw [same]
      exact fitsNew
  · next different => exact keeps other found different (holds _ _ member)

theorem modify {change : α → α} (holds : table.Holds fits)
    (changes : ∀ value, fits key value → fitsLater key (change value))
    (keeps : ∀ other old, other ≠ key → fits other old →
      fitsLater other old) : (table.modify key change).Holds fitsLater := by
  intro other found member
  rw [get?_modify] at member
  split at member
  · next same =>
      obtain ⟨before, present, rfl⟩ := Option.map_eq_some_iff.1 member
      rw [same]
      exact changes before (holds _ _ present)
  · next different => exact keeps other found different (holds _ _ member)

end Holds

end

/-! ## Entries and keys -/

section

variable [DecidableEq κ] [IsKeyOrder κ]

theorem get?_eq_some_iff (table : Table κ α) (key : κ) (value : α) :
    table.get? key = some value ↔ (key, value) ∈ table.entries := by
  obtain ⟨entries, ascending⟩ := table
  simp only [get?]
  induction entries with
  | nil => simp [findEntry]
  | cons entry rest inductionHypothesis =>
      obtain ⟨headBelow, restAscending⟩ := List.pairwise_cons.1 ascending
      by_cases same : entry.1 = key
      · subst same
        have notLater : (entry.1, value) ∉ rest := by
          intro member
          exact IsKeyOrder.irrefl _ (headBelow (entry.1, value) member)
        rw [findEntry, if_pos rfl, List.mem_cons]
        constructor
        · intro equality
          left
          rw [← Option.some.inj equality]
        · rintro (equality | member)
          · rw [← equality]
          · exact absurd member notLater
      · have different : (key, value) ≠ entry := by
          rintro rfl
          exact same rfl
        rw [findEntry, if_neg same, inductionHypothesis restAscending,
          List.mem_cons]
        simp [different]

theorem mem_keys (table : Table κ α) (key : κ) :
    key ∈ table.keys ↔ table.contains key = true := by
  rw [contains, Option.isSome_iff_exists]
  simp only [keys, List.mem_map, get?_eq_some_iff]
  constructor
  · rintro ⟨⟨_, value⟩, member, rfl⟩
    exact ⟨value, member⟩
  · rintro ⟨value, member⟩
    exact ⟨(key, value), member, rfl⟩

theorem entries_perm {table : Table κ α} {key : κ} {value : α}
    (found : table.get? key = some value) :
    table.entries.Perm ((key, value) :: (table.erase key).entries) := by
  obtain ⟨entries, ascending⟩ := table
  simp only [get?, erase, eraseEntry] at found ⊢
  induction entries with
  | nil => simp [findEntry] at found
  | cons entry rest inductionHypothesis =>
      obtain ⟨headBelow, restAscending⟩ := List.pairwise_cons.1 ascending
      by_cases same : entry.1 = key
      · subst same
        have value_eq : entry.2 = value := by
          simpa [findEntry] using found
        have others : ∀ other ∈ rest, other.1 ≠ entry.1 := by
          intro other member equality
          have below := headBelow other member
          rw [equality] at below
          exact IsKeyOrder.irrefl _ below
        have kept :
            rest.filter (fun other => decide (other.1 ≠ entry.1)) = rest :=
          List.filter_eq_self.2 fun other member => by
            simpa using others other member
        simp only [ne_eq, not_true_eq_false, decide_false,
          Bool.false_eq_true, not_false_eq_true, List.filter_cons_of_neg]
        rw [kept, ← value_eq]
      · have later : findEntry key rest = some value := by
          simpa [findEntry, same] using found
        rw [List.filter_cons_of_pos (by simpa using same)]
        exact
          ((inductionHypothesis restAscending later).cons entry).trans
            (List.Perm.swap (key, value) entry _)

omit [DecidableEq κ] in
theorem keys_nodup (table : Table κ α) : table.keys.Nodup := by
  refine table.keys_ascending.imp fun below same => ?_
  rw [same] at below
  exact IsKeyOrder.irrefl _ below

/-- Tables in which every key leads to the same value are equal. -/
theorem ext_get? {table other : Table κ α}
    (same : ∀ key, table.get? key = other.get? key) :
    table = other := by
  have sameEntries : ∀ entry,
      entry ∈ table.entries ↔ entry ∈ other.entries := by
    rintro ⟨key, value⟩
    rw [← get?_eq_some_iff, ← get?_eq_some_iff, same]
  have strict : ∀ first second : κ × α,
      first.1 < second.1 → first ≠ second := by
    rintro first second below rfl
    exact IsKeyOrder.irrefl _ below
  have permutation : table.entries.Perm other.entries :=
    (List.perm_ext_iff_of_nodup (table.ascending.imp (strict _ _))
      (other.ascending.imp (strict _ _))).2 sameEntries
  have equality : table.entries = other.entries :=
    permutation.eq_of_pairwise
      (fun first second _ _ below above =>
        absurd (IsKeyOrder.trans below above) (IsKeyOrder.irrefl _))
      table.ascending other.ascending
  cases table
  cases other
  simpa using equality

theorem erase_eq_self {table : Table κ α} {key : κ}
    (absent : table.get? key = none) :
    table.erase key = table := by
  refine ext_get? fun other => ?_
  rw [get?_erase]
  split
  · next same => rw [same, absent]
  · rfl

variable [DecidableLT κ]

theorem insert_erase (table : Table κ α) (key : κ) (value : α) :
    (table.insert key value).erase key = table.erase key := by
  refine ext_get? fun other => ?_
  rw [get?_erase, get?_erase, get?_insert]
  split <;> rfl

theorem insert_entries_perm (table : Table κ α) (key : κ) (value : α) :
    (table.insert key value).entries.Perm
      ((key, value) :: (table.erase key).entries) := by
  have found : (table.insert key value).get? key = some value :=
    get?_insert_self table key value
  rw [← insert_erase table key value]
  exact entries_perm found

end

end MeetingLog.Table
