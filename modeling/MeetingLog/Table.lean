/-!
# Tables

A table keeps values under keys that have an order, each key at most once, and
lists them in ascending order of the keys. Two lookups after one operation
describe it completely: the one at the key of the operation and the one at
another key.
-/

namespace MeetingLog

/-- The order of the keys of a type: it is strict, and one of two different keys
is the smaller. -/
class IsKeyOrder (κ : Type) [LT κ] : Prop where
  irrefl : ∀ key : κ, ¬ key < key
  trans : ∀ {first second third : κ},
    first < second → second < third → first < third
  trichotomy : ∀ first second : κ,
    first < second ∨ first = second ∨ second < first

instance : IsKeyOrder String where
  irrefl := String.lt_irrefl
  trans := String.lt_trans
  trichotomy := Std.lt_trichotomy

/-- Lists of bytes are in lexicographic order. -/
instance : IsKeyOrder (List UInt8) where
  irrefl := List.lt_irrefl
  trans := List.lt_trans
  trichotomy := Std.lt_trichotomy

/-! ## Entries -/

section

variable {κ α : Type} [DecidableEq κ]

/-- The value under a key among some entries. -/
def findEntry (key : κ) : List (κ × α) → Option α
  | [] => none
  | entry :: rest =>
      if entry.1 = key then some entry.2 else findEntry key rest

/-- The entries without the value under a key. -/
def eraseEntry (key : κ) (entries : List (κ × α)) : List (κ × α) :=
  entries.filter fun entry => entry.1 ≠ key

theorem findEntry_eraseEntry_self (key : κ) (entries : List (κ × α)) :
    findEntry key (eraseEntry key entries) = none := by
  induction entries with
  | nil => rfl
  | cons head tail inductionHypothesis =>
      by_cases same : head.1 = key
      · simpa [eraseEntry, same] using inductionHypothesis
      · simpa [eraseEntry, same, findEntry] using inductionHypothesis

theorem findEntry_eraseEntry_of_ne
    {key other : κ} (different : other ≠ key) (entries : List (κ × α)) :
    findEntry other (eraseEntry key entries) = findEntry other entries := by
  induction entries with
  | nil => rfl
  | cons head tail inductionHypothesis =>
      by_cases same : head.1 = key
      · simpa [eraseEntry, same, findEntry, Ne.symm different]
          using inductionHypothesis
      · by_cases found : head.1 = other
        · simp [eraseEntry, findEntry, found, different]
        · simpa [eraseEntry, same, findEntry, found]
            using inductionHypothesis

variable [LT κ] [DecidableLT κ]

/-- The entries with a value put under a key, in place of the old one if the
key was there. -/
def insertEntry (key : κ) (value : α) : List (κ × α) → List (κ × α)
  | [] => [(key, value)]
  | entry :: rest =>
      if key < entry.1 then (key, value) :: entry :: rest
      else if key = entry.1 then (key, value) :: rest
      else entry :: insertEntry key value rest

theorem findEntry_insertEntry_self
    (key : κ) (value : α) (entries : List (κ × α)) :
    findEntry key (insertEntry key value entries) = some value := by
  induction entries with
  | nil => simp [insertEntry, findEntry]
  | cons head tail inductionHypothesis =>
      rw [insertEntry]
      split
      · simp [findEntry]
      · split
        · simp [findEntry]
        · next different =>
            rw [findEntry, if_neg (Ne.symm different), inductionHypothesis]

theorem findEntry_insertEntry_of_ne
    {key other : κ} (different : other ≠ key) (value : α)
    (entries : List (κ × α)) :
    findEntry other (insertEntry key value entries) =
      findEntry other entries := by
  induction entries with
  | nil => simp [insertEntry, findEntry, Ne.symm different]
  | cons head tail inductionHypothesis =>
      rw [insertEntry]
      split
      · simp [findEntry, Ne.symm different]
      · split
        · next same =>
            simp [findEntry, Ne.symm different, ← same]
        · simp [findEntry, inductionHypothesis]

theorem mem_insertEntry {key : κ} {value : α} {entries : List (κ × α)}
    {entry : κ × α} (member : entry ∈ insertEntry key value entries) :
    entry = (key, value) ∨ entry ∈ entries := by
  induction entries with
  | nil => simpa [insertEntry] using member
  | cons head tail inductionHypothesis =>
      rw [insertEntry] at member
      split at member
      · simpa using member
      · split at member
        · rcases List.mem_cons.1 member with equality | later
          · exact Or.inl equality
          · exact Or.inr (List.mem_cons_of_mem _ later)
        · rcases List.mem_cons.1 member with equality | later
          · exact Or.inr (by simp [equality])
          · rcases inductionHypothesis later with equality | inside
            · exact Or.inl equality
            · exact Or.inr (List.mem_cons_of_mem _ inside)

theorem pairwise_insertEntry [IsKeyOrder κ] (key : κ) (value : α)
    {entries : List (κ × α)}
    (ascending : entries.Pairwise fun first second => first.1 < second.1) :
    (insertEntry key value entries).Pairwise
      fun first second => first.1 < second.1 := by
  induction entries with
  | nil => simp [insertEntry]
  | cons head tail inductionHypothesis =>
      obtain ⟨headBelow, tailAscending⟩ := List.pairwise_cons.1 ascending
      rw [insertEntry]
      split
      next below =>
        refine List.pairwise_cons.2 ⟨fun entry member => ?_, ascending⟩
        rcases List.mem_cons.1 member with equality | later
        · simpa [equality] using below
        · exact IsKeyOrder.trans below (headBelow entry later)
      next notBelow =>
        split
        next same =>
          refine List.pairwise_cons.2 ⟨fun entry member => ?_, tailAscending⟩
          simpa [same] using headBelow entry member
        next different =>
          refine List.pairwise_cons.2
            ⟨fun entry member => ?_, inductionHypothesis tailAscending⟩
          rcases mem_insertEntry member with equality | inside
          · rw [equality]
            rcases IsKeyOrder.trichotomy key head.1 with below | same | above
            · exact absurd below notBelow
            · exact absurd same different
            · exact above
          · exact headBelow entry inside

end

/-! ## Tables -/

/-- Values under keys, in ascending order of the keys. -/
structure Table (κ α : Type) [LT κ] where
  entries : List (κ × α)
  ascending : entries.Pairwise fun first second => first.1 < second.1

namespace Table

variable {κ α β : Type} [LT κ]

/-- The table without entries. -/
def empty : Table κ α :=
  ⟨[], List.Pairwise.nil⟩

instance : Inhabited (Table κ α) :=
  ⟨empty⟩

def map (table : Table κ α) (change : κ → α → β) : Table κ β :=
  ⟨table.entries.map fun entry => (entry.1, change entry.1 entry.2),
    List.pairwise_map.2 table.ascending⟩

/-- The number of values. -/
def size (table : Table κ α) : Nat :=
  table.entries.length

/-- The keys in ascending order. -/
def keys (table : Table κ α) : List κ :=
  table.entries.map (·.1)

/-- The values in ascending order of their keys. -/
def values (table : Table κ α) : List α :=
  table.entries.map (·.2)

variable [DecidableEq κ]

/-- The value under a key. -/
def get? (table : Table κ α) (key : κ) : Option α :=
  findEntry key table.entries

/-- `contains table key` means that there is a value under the key. -/
def contains (table : Table κ α) (key : κ) : Bool :=
  (table.get? key).isSome

/-- The table without the value under a key. -/
def erase (table : Table κ α) (key : κ) : Table κ α :=
  ⟨eraseEntry key table.entries, table.ascending.filter _⟩

@[simp]
theorem get?_empty (key : κ) : (empty : Table κ α).get? key = none :=
  rfl

@[simp]
theorem get?_erase_self (table : Table κ α) (key : κ) :
    (table.erase key).get? key = none :=
  findEntry_eraseEntry_self key table.entries

theorem get?_erase_of_ne (table : Table κ α) {key other : κ}
    (different : other ≠ key) :
    (table.erase key).get? other = table.get? other :=
  findEntry_eraseEntry_of_ne different table.entries

variable [DecidableLT κ] [IsKeyOrder κ]

def insert (table : Table κ α) (key : κ) (value : α) : Table κ α :=
  ⟨insertEntry key value table.entries,
    pairwise_insertEntry key value table.ascending⟩

def modify (table : Table κ α) (key : κ) (change : α → α) : Table κ α :=
  match table.get? key with
  | none => table
  | some value => table.insert key (change value)

@[simp]
theorem get?_insert_self (table : Table κ α) (key : κ) (value : α) :
    (table.insert key value).get? key = some value :=
  findEntry_insertEntry_self key value table.entries

theorem get?_insert_of_ne (table : Table κ α) {key other : κ}
    (different : other ≠ key) (value : α) :
    (table.insert key value).get? other = table.get? other :=
  findEntry_insertEntry_of_ne different value table.entries

end Table

end MeetingLog
