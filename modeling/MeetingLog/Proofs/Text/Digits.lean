import MeetingLog.Text.Blank
import MeetingLog.Text.Digits
import Mathlib.Algebra.Group.Nat.Defs
import Mathlib.Data.List.Induction
import Mathlib.Data.List.TakeDrop
import Mathlib.Data.List.TakeWhile

/-!
# Numbers read back from their digits

The digits of a number are read back as the number, up to the first character
that is no digit or as many as are asked for.
-/

namespace MeetingLog.Text

/-- `isDigit c` means that `c` is an ASCII digit. -/
def isDigit (c : Char) : Bool :=
  (digitValue? c).isSome

theorem digit_facts : ∀ value < 10,
    digitValue? (digitChar value) = some value ∧
      isBlank (digitChar value) = false ∧
      isDecimalDigit (digitChar value) = true ∧
      digitChar value ≠ '\n' ∧ (digitChar value = '0' → value = 0) := by
  decide

theorem digitChar_mod (value : Nat) :
    digitChar (value % 10) = digitChar value := by
  rw [digitChar, digitChar, Nat.mod_mod]

theorem digitValue?_digitChar (value : Nat) :
    digitValue? (digitChar value) = some (value % 10) := by
  rw [← digitChar_mod]
  exact (digit_facts (value % 10) (Nat.mod_lt _ (by decide))).1

theorem isDigit_digitChar (value : Nat) :
    isDigit (digitChar value) = true := by
  rw [isDigit, digitValue?_digitChar]
  rfl

theorem exists_digitChar {c : Char} (digit : isDigit c = true) :
    ∃ value, c = digitChar value := by
  rw [isDigit, digitValue?] at digit
  split at digit
  · next between =>
      have low : 48 ≤ c.toNat := between.1
      have high : c.toNat ≤ 57 := between.2
      refine ⟨c.toNat - 48, ?_⟩
      have code : '0'.toNat + (c.toNat - 48) % 10 = c.toNat := by
        show 48 + (c.toNat - 48) % 10 = c.toNat
        omega
      rw [digitChar, code, Char.ofNat_toNat]
  · cases digit

theorem isBlank_digitChar (value : Nat) :
    isBlank (digitChar value) = false := by
  rw [← digitChar_mod]
  exact (digit_facts (value % 10) (Nat.mod_lt _ (by decide))).2.1

theorem isDecimalDigit_digitChar (value : Nat) :
    isDecimalDigit (digitChar value) = true := by
  rw [← digitChar_mod]
  exact (digit_facts (value % 10) (Nat.mod_lt _ (by decide))).2.2.1

theorem digitChar_ne_feed (value : Nat) : digitChar value ≠ '\n' := by
  rw [← digitChar_mod]
  exact (digit_facts (value % 10) (Nat.mod_lt _ (by decide))).2.2.2.1

/-! ## Values -/

theorem valueOfDigits_append (digits : List Char) (value : Nat) :
    valueOfDigits (digits ++ [digitChar value]) =
      10 * valueOfDigits digits + value % 10 := by
  rw [valueOfDigits, List.foldl_append, List.foldl_cons, List.foldl_nil,
    digitValue?_digitChar]
  rfl

theorem length_fixedDigits (width : Nat) :
    ∀ number, (fixedDigits width number).length = width := by
  induction width with
  | zero => intro number; rfl
  | succ width inductionHypothesis =>
      intro number
      rw [fixedDigits, List.length_append, inductionHypothesis]
      rfl

theorem mem_fixedDigits {width : Nat} {c : Char} :
    ∀ {number}, c ∈ fixedDigits width number →
      ∃ value, c = digitChar value := by
  induction width with
  | zero =>
      intro number member
      cases member
  | succ width inductionHypothesis =>
      intro number member
      rw [fixedDigits, List.mem_append, List.mem_singleton] at member
      rcases member with earlier | last
      · exact inductionHypothesis earlier
      · exact ⟨number, last⟩

theorem valueOfDigits_fixedDigits (width : Nat) :
    ∀ number, valueOfDigits (fixedDigits width number) =
      number % 10 ^ width := by
  induction width with
  | zero =>
      intro number
      rw [Nat.pow_zero, Nat.mod_one]
      rfl
  | succ width inductionHypothesis =>
      intro number
      rw [fixedDigits, valueOfDigits_append, inductionHypothesis,
        Nat.pow_succ, Nat.mul_comm (10 ^ width) 10, Nat.mod_mul]
      omega

theorem decimal_ne_nil (number : Nat) : decimal number ≠ [] := by
  rw [decimal]
  split
  · exact List.cons_ne_nil _ _
  · exact List.append_ne_nil_of_right_ne_nil _ (List.cons_ne_nil _ _)

theorem mem_decimal {number : Nat} {c : Char} (member : c ∈ decimal number) :
    ∃ value, c = digitChar value := by
  rw [decimal] at member
  split at member
  · exact ⟨number, List.mem_singleton.1 member⟩
  · rcases List.mem_append.1 member with earlier | last
    · exact mem_decimal earlier
    · exact ⟨number, List.mem_singleton.1 last⟩
termination_by number

theorem valueOfDigits_decimal (number : Nat) :
    valueOfDigits (decimal number) = number := by
  rw [decimal]
  split
  · next small =>
      have single := valueOfDigits_append [] number
      rw [List.nil_append] at single
      rw [single]
      show 10 * 0 + number % 10 = number
      omega
  · rw [valueOfDigits_append, valueOfDigits_decimal (number / 10)]
    omega
termination_by number

/-- The numeral of a number does not begin with a zero unless it has no other
digit. -/
theorem head?_decimal {number : Nat}
    (zero : (decimal number).head? = some '0') : number = 0 := by
  rw [decimal] at zero
  split at zero
  · next small =>
      have equal : digitChar number = '0' := by
        simpa using zero
      exact (digit_facts number small).2.2.2.2 equal
  · next large =>
      have zeroToo : (decimal (number / 10)).head? = some '0' := by
        cases shape : decimal (number / 10) with
        | nil => exact absurd shape (decimal_ne_nil _)
        | cons c others =>
            rw [shape] at zero
            exact zero
      have none := head?_decimal zeroToo
      omega
termination_by number

theorem feed_not_mem_fixedDigits (width number : Nat) :
    '\n' ∉ fixedDigits width number := by
  intro member
  obtain ⟨value, equality⟩ := mem_fixedDigits member
  exact digitChar_ne_feed value equality.symm

theorem feed_not_mem_decimal (number : Nat) : '\n' ∉ decimal number := by
  intro member
  obtain ⟨value, equality⟩ := mem_decimal member
  exact digitChar_ne_feed value equality.symm

/-! ## Reading -/

/-- `endsDigits rest` means that no digit follows. -/
def endsDigits : List Char → Bool
  | [] => true
  | c :: _ => !isDigit c

theorem takeDigits_append {digits : List Char}
    (all : ∀ c ∈ digits, isDigit c = true) (rest : List Char) :
    takeDigits digits.length (digits ++ rest) = (digits, rest) := by
  induction digits with
  | nil =>
      rw [List.nil_append]
      cases rest <;> rfl
  | cons c others inductionHypothesis =>
      have digit := all c List.mem_cons_self
      rw [isDigit, Option.isSome_iff_exists] at digit
      obtain ⟨value, found⟩ := digit
      have later := inductionHypothesis fun other member =>
        all other (List.mem_cons_of_mem _ member)
      rw [List.length_cons, List.cons_append, takeDigits, found]
      simp only [later]

theorem spanDigits_append {digits : List Char}
    (all : ∀ c ∈ digits, isDigit c = true) {rest : List Char}
    (ends : endsDigits rest = true) :
    spanDigits (digits ++ rest) = (digits, rest) := by
  have none : rest.takeWhile isDigit = [] := by
    cases rest with
    | nil => rfl
    | cons c others =>
        have notDigit : isDigit c = false := by
          simpa [endsDigits] using ends
        rw [List.takeWhile_cons_of_neg (by simp [notDigit])]
  have stays : rest.dropWhile isDigit = rest := by
    have parts := List.takeWhile_append_dropWhile (p := isDigit) (l := rest)
    rwa [none, List.nil_append] at parts
  show (digits ++ rest).span isDigit = (digits, rest)
  rw [List.span_eq_takeWhile_dropWhile, List.takeWhile_append_of_pos all,
    List.dropWhile_append_of_pos all, none, stays, List.append_nil]

theorem isDigit_fixedDigits (width number : Nat) :
    ∀ c ∈ fixedDigits width number, isDigit c = true := by
  intro c member
  obtain ⟨value, rfl⟩ := mem_fixedDigits member
  exact isDigit_digitChar value

theorem isDigit_decimal (number : Nat) :
    ∀ c ∈ decimal number, isDigit c = true := by
  intro c member
  obtain ⟨value, rfl⟩ := mem_decimal member
  exact isDigit_digitChar value

theorem readNumber?_fixedDigits {width : Nat} (positive : 0 < width)
    {number : Nat} (small : number < 10 ^ width) (rest : List Char) :
    readNumber? width (fixedDigits width number ++ rest) =
      some (number, rest) := by
  have taken :=
    takeDigits_append (isDigit_fixedDigits width number) rest
  rw [length_fixedDigits] at taken
  rw [readNumber?, taken]
  have value := valueOfDigits_fixedDigits width number
  rw [Nat.mod_eq_of_lt small] at value
  have length := length_fixedDigits width number
  cases shape : fixedDigits width number with
  | nil =>
      rw [shape] at length
      exact absurd length (Nat.ne_of_lt positive)
  | cons c others =>
      rw [shape] at value
      simp only [value]

theorem trimFront_fixedDigits {width : Nat} (positive : 0 < width)
    (number : Nat) (rest : List Char) :
    trimFront (fixedDigits width number ++ rest) =
      fixedDigits width number ++ rest := by
  have length := length_fixedDigits width number
  cases shape : fixedDigits width number with
  | nil =>
      rw [shape] at length
      exact absurd length (Nat.ne_of_lt positive)
  | cons c others =>
      have member : c ∈ fixedDigits width number := by
        rw [shape]
        exact List.mem_cons_self
      obtain ⟨value, rfl⟩ := mem_fixedDigits member
      rw [List.cons_append, trimFront,
        List.dropWhile_cons_of_neg (by simp [isBlank_digitChar])]

theorem expectChar?_cons (expected : Char) (rest : List Char) :
    expectChar? expected (expected :: rest) = some rest :=
  if_pos rfl

theorem expect?_append (expected rest : List Char) :
    expect? expected (expected ++ rest) = some rest := by
  induction expected with
  | nil => rfl
  | cons c others inductionHypothesis =>
      rw [List.cons_append, expect?, expectChar?_cons]
      exact inductionHypothesis

/-! ## What was read -/

theorem expectChar?_eq_some {expected : Char} {letters rest : List Char}
    (found : expectChar? expected letters = some rest) :
    letters = expected :: rest := by
  cases letters with
  | nil => cases found
  | cons c others =>
      rw [expectChar?] at found
      split at found
      · next same => rw [same, Option.some.inj found]
      · cases found

theorem expect?_eq_some {expected letters rest : List Char}
    (found : expect? expected letters = some rest) :
    letters = expected ++ rest := by
  induction expected generalizing letters with
  | nil => exact Option.some.inj found
  | cons c others inductionHypothesis =>
      rw [expect?, Option.bind_eq_some_iff] at found
      obtain ⟨between, first, later⟩ := found
      rw [expectChar?_eq_some first, inductionHypothesis later,
        List.cons_append]

theorem isDecimalDigit_of_isDigit {c : Char} (digit : isDigit c = true) :
    isDecimalDigit c = true := by
  obtain ⟨value, rfl⟩ := exists_digitChar digit
  exact isDecimalDigit_digitChar value

theorem takeDigits_eq (limit : Nat) (letters : List Char) :
    (takeDigits limit letters).1 ++ (takeDigits limit letters).2 = letters ∧
      ∀ c ∈ (takeDigits limit letters).1, isDigit c = true := by
  induction limit generalizing letters with
  | zero => exact ⟨rfl, fun _ member => absurd member List.not_mem_nil⟩
  | succ limit inductionHypothesis =>
      cases letters with
      | nil => exact ⟨rfl, fun _ member => absurd member List.not_mem_nil⟩
      | cons c rest =>
          rw [takeDigits]
          cases value : digitValue? c with
          | none => exact ⟨rfl, fun _ member => absurd member List.not_mem_nil⟩
          | some number =>
              obtain ⟨whole, digits⟩ := inductionHypothesis rest
              refine ⟨congrArg (List.cons c) whole, fun d member => ?_⟩
              rcases List.mem_cons.1 member with rfl | later
              · rw [isDigit, value]
                rfl
              · exact digits d later

/-- Digits are written again as the number that they write. -/
theorem fixedDigits_valueOfDigits {digits : List Char}
    (all : ∀ c ∈ digits, isDigit c = true) :
    fixedDigits digits.length (valueOfDigits digits) = digits := by
  induction digits using List.reverseRecOn with
  | nil => rfl
  | append_singleton front last inductionHypothesis =>
      have before := inductionHypothesis fun c member =>
        all c (List.mem_append_left _ member)
      obtain ⟨value, rfl⟩ := exists_digitChar
        (all last (List.mem_append_right _ (List.mem_singleton_self _)))
      have quotient : (10 * valueOfDigits front + value % 10) / 10 =
          valueOfDigits front := by omega
      have remainder : (10 * valueOfDigits front + value % 10) % 10 =
          value % 10 := by omega
      rw [valueOfDigits_append, List.length_append, List.length_singleton,
        fixedDigits, quotient, before, ← digitChar_mod, remainder,
        digitChar_mod]

theorem valueOfDigits_lt {digits : List Char}
    (all : ∀ c ∈ digits, isDigit c = true) :
    valueOfDigits digits < 10 ^ digits.length := by
  induction digits using List.reverseRecOn with
  | nil => exact Nat.one_pos
  | append_singleton front last inductionHypothesis =>
      have before := inductionHypothesis fun c member =>
        all c (List.mem_append_left _ member)
      obtain ⟨value, rfl⟩ := exists_digitChar
        (all last (List.mem_append_right _ (List.mem_singleton_self _)))
      rw [valueOfDigits_append, List.length_append, List.length_singleton,
        Nat.pow_succ]
      omega

end MeetingLog.Text
