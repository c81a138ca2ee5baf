import MeetingLog.Json.Reader
import MeetingLog.Json.Writer
import MeetingLog.Proofs.Json.Literal
import MeetingLog.Proofs.Text.Digits

/-!
# Texts and whole numbers read back

A text or a whole number of sixty-four bits that was written in front of a
comma or of a closing bracket is read back, and the reader stops there.
-/

namespace MeetingLog.Json

open MeetingLog.Text

/-- `EndsValue rest` means that `rest` begins with something that can follow a
value inside a list or an object. -/
def EndsValue (rest : List Char) : Prop :=
  ∃ others, rest = ',' :: others ∨ rest = '}' :: others ∨ rest = ']' :: others

theorem endsValue_comma (others : List Char) : EndsValue (',' :: others) :=
  ⟨others, .inl rfl⟩

theorem endsValue_brace (others : List Char) : EndsValue ('}' :: others) :=
  ⟨others, .inr (.inl rfl)⟩

theorem EndsValue.endsDigits {rest : List Char} (ends : EndsValue rest) :
    endsDigits rest = true := by
  obtain ⟨others, (rfl | rfl | rfl)⟩ := ends
  all_goals rfl

theorem EndsValue.continuesNumber {rest : List Char} (ends : EndsValue rest) :
    continuesNumber rest = false := by
  obtain ⟨others, (rfl | rfl | rfl)⟩ := ends
  all_goals rfl

/-! ## Whole numbers -/

theorem le_foldl_digits (digits : List Char) (start : Nat) :
    start ≤
      digits.foldl (fun value c => 10 * value + (digitValue? c).getD 0)
        start := by
  induction digits generalizing start with
  | nil => exact Nat.le_refl start
  | cons c others inductionHypothesis =>
      have later :=
        inductionHypothesis (10 * start + (digitValue? c).getD 0)
      rw [List.foldl_cons]
      omega

/-- Digits of a number that fits into sixty-four bits are all absorbed. -/
theorem absorb_eq {digits : List Char} {start : Nat}
    (fits : digits.foldl
        (fun value c => 10 * value + (digitValue? c).getD 0) start <
      wordSize) :
    absorb start digits =
      (digits.foldl (fun value c => 10 * value + (digitValue? c).getD 0)
        start, []) := by
  induction digits generalizing start with
  | nil => rfl
  | cons c others inductionHypothesis =>
      rw [List.foldl_cons] at fits ⊢
      have small : 10 * start + (digitValue? c).getD 0 < wordSize :=
        Nat.lt_of_le_of_lt (le_foldl_digits others _) fits
      rw [absorb]
      simp only [if_pos small]
      exact inductionHypothesis fits

theorem absorb_decimal {number : Nat} (small : number < wordSize) :
    absorb 0 (decimal number) = (number, []) := by
  have value := valueOfDigits_decimal number
  rw [valueOfDigits] at value
  rw [absorb_eq (by rw [value]; exact small), value]

/-- A numeral never has a zero in front of another digit. -/
theorem decimal_no_extra_zero (number : Nat) :
    ¬((decimal number).head? = some '0' ∧ 1 < (decimal number).length) := by
  rintro ⟨zero, long⟩
  obtain rfl := head?_decimal zero
  rw [decimal] at long
  exact absurd long (by decide)

theorem decimal_cons (number : Nat) :
    ∃ c others, decimal number = c :: others ∧ isDigit c = true := by
  cases shape : decimal number with
  | nil => exact absurd shape (decimal_ne_nil number)
  | cons c others =>
      refine ⟨c, others, rfl, isDigit_decimal number c ?_⟩
      rw [shape]
      exact List.mem_cons_self

theorem readUnsigned_decimal {number : Nat} (small : number < wordSize)
    {rest : List Char} (ends : EndsValue rest) :
    readUnsigned false (decimal number ++ rest) =
      .ok (.natural (UInt64.ofNat number), rest) := by
  have noExtra := decimal_no_extra_zero number
  have absorbed := absorb_decimal small
  rw [readUnsigned, spanDigits_append (isDigit_decimal number) ends.endsDigits]
  obtain ⟨c, others, shape, -⟩ := decimal_cons number
  rw [shape] at noExtra absorbed ⊢
  simp only [if_neg noExtra, absorbed, ends.continuesNumber]
  rfl

/-! ## Values -/

/-- `value.IsScalar` means that the value is a text or a whole number that is
not below zero. -/
def Value.IsScalar : Value → Prop
  | .text _ => True
  | .number (.natural _) => True
  | _ => False

theorem digit_starts : ∀ value < 10,
    isSpace (digitChar value) = false ∧ digitChar value ≠ 'n' ∧
      digitChar value ≠ 't' ∧ digitChar value ≠ 'f' ∧
      digitChar value ≠ '"' ∧ digitChar value ≠ '-' ∧
      digitChar value ≠ '[' ∧ digitChar value ≠ '{' := by
  decide

/-- What begins with a digit is read as a numeral. -/
theorem readScalar_digit {c : Char} (digit : isDigit c = true)
    (rest : List Char) :
    readScalar (c :: rest) =
      (readUnsigned false (c :: rest)).map fun (number, rest) =>
        (.number number, rest) := by
  obtain ⟨value, rfl⟩ := exists_digitChar digit
  rw [← digitChar_mod] at digit ⊢
  obtain ⟨-, notN, notT, notF, notQuote, notMinus, -, -⟩ :=
    digit_starts (value % 10) (Nat.mod_lt _ (by decide))
  have start : (decide (digitChar (value % 10) = '-') ||
      (digitValue? (digitChar (value % 10))).isSome) = true := by
    rw [isDigit] at digit
    rw [digit, Bool.or_true]
  rw [readScalar.eq_def]
  split
  · next equality => cases equality
  · next equality => exact absurd (List.cons.inj equality).1 notN
  · next equality => exact absurd (List.cons.inj equality).1 notT
  · next equality => exact absurd (List.cons.inj equality).1 notF
  · next equality => exact absurd (List.cons.inj equality).1 notQuote
  · next first letters _ _ _ _ equality =>
      obtain ⟨rfl, rfl⟩ := List.cons.inj equality
      rw [if_pos start, readNumeral.eq_def]
      split
      · next equality => exact absurd (List.cons.inj equality).1 notMinus
      · rfl

theorem readScalar_decimal {number : Nat} (small : number < wordSize)
    {rest : List Char} (ends : EndsValue rest) :
    readScalar (decimal number ++ rest) =
      .ok (.number (.natural (UInt64.ofNat number)), rest) := by
  have unsigned := readUnsigned_decimal small ends
  obtain ⟨c, others, shape, digit⟩ := decimal_cons number
  rw [shape, List.cons_append] at unsigned ⊢
  rw [readScalar_digit digit, unsigned]
  rfl

theorem skipSpaces_space (letters : List Char) :
    skipSpaces (' ' :: letters) = skipSpaces letters := by
  rw [skipSpaces, List.dropWhile_cons_of_pos (by decide), skipSpaces]

theorem skipSpaces_cons {c : Char} (visible : isSpace c = false)
    (letters : List Char) : skipSpaces (c :: letters) = c :: letters := by
  rw [skipSpaces, List.dropWhile_cons_of_neg (by simp [visible])]

/-- A value that begins like a text or a numeral has no parts. -/
theorem readValue_eq_readScalar {c : Char} (visible : isSpace c = false)
    (notList : c ≠ '[') (notObject : c ≠ '{') (depth : Nat)
    (letters : List Char) :
    readValue depth (' ' :: c :: letters) = readScalar (c :: letters) := by
  cases depth with
  | zero =>
      rw [readValue, skipSpaces_space, skipSpaces_cons visible]
      split
      · next equality => exact absurd (List.cons.inj equality).1 notList
      · next equality => exact absurd (List.cons.inj equality).1 notObject
      · rfl
  | succ depth =>
      rw [readValue, skipSpaces_space, skipSpaces_cons visible]
      split
      · next equality => exact absurd (List.cons.inj equality).1 notList
      · next equality => exact absurd (List.cons.inj equality).1 notObject
      · rfl

theorem readValue_text (asciiOnly : Bool) (text : String) (depth : Nat)
    (rest : List Char) :
    readValue depth (' ' :: (writeLiteral asciiOnly text ++ rest)) =
      .ok (.text text, rest) := by
  have literal : writeLiteral asciiOnly text ++ rest =
      '"' :: (text.toList.flatMap (writeLetter asciiOnly) ++ '"' :: rest) := by
    simp [writeLiteral]
  rw [literal, readValue_eq_readScalar (by decide) (by decide) (by decide),
    readScalar, readLiteral_writeLiteral]
  rfl

theorem readValue_natural (value : UInt64) (depth : Nat) {rest : List Char}
    (ends : EndsValue rest) :
    readValue depth (' ' :: (decimal value.toNat ++ rest)) =
      .ok (.number (.natural value), rest) := by
  have scalar := readScalar_decimal value.toNat_lt ends
  obtain ⟨c, others, shape, digit⟩ := decimal_cons value.toNat
  have member : c ∈ decimal value.toNat := by
    rw [shape]
    exact List.mem_cons_self
  obtain ⟨digitValue, rfl⟩ := mem_decimal member
  rw [← digitChar_mod] at shape
  obtain ⟨visible, -, -, -, -, -, notList, notObject⟩ :=
    digit_starts (digitValue % 10) (Nat.mod_lt _ (by decide))
  rw [shape, List.cons_append] at scalar ⊢
  rw [readValue_eq_readScalar visible notList notObject, scalar,
    UInt64.ofNat_toNat]

/-- A text or a whole number is read back, at any depth. -/
theorem readValue_writeValue (style : LineStyle) {value : Value}
    (scalar : value.IsScalar) (depth : Nat) {rest : List Char}
    (ends : EndsValue rest) :
    readValue depth (' ' :: (writeValue style value ++ rest)) =
      .ok (value, rest) := by
  cases value with
  | text content =>
      rw [writeValue]
      exact readValue_text style.asciiOnly content depth rest
  | number numeral =>
      cases numeral with
      | natural value =>
          rw [writeValue, writeNumeral]
          exact readValue_natural value depth ends
      | negative | real => exact scalar.elim
  | null | boolean | list | object => exact scalar.elim

end MeetingLog.Json
