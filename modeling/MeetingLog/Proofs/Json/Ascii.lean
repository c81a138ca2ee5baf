import MeetingLog.Proofs.Json.Tagged

/-!
# The characters of written objects

What is written with escapes for everything beyond ASCII is ASCII throughout,
and control characters are escaped too, line feeds among them.
-/

namespace MeetingLog.Json

open MeetingLog.Text

/-- `IsPlainAscii c` means that the character is ASCII and none of the control
characters in front of the space. -/
def IsPlainAscii (c : Char) : Prop :=
  ' ' ≤ c ∧ c.toNat < 0x80

instance (c : Char) : Decidable (IsPlainAscii c) :=
  inferInstanceAs (Decidable (_ ∧ _))

theorem not_isPlainAscii_feed : ¬ IsPlainAscii '\n' := by
  decide

theorem isPlainAscii_hexDigit : ∀ value < 16,
    IsPlainAscii (hexDigit value) := by
  decide

theorem isPlainAscii_digitChar (value : Nat) :
    IsPlainAscii (digitChar value) := by
  have digits : ∀ value < 10, IsPlainAscii (digitChar value) := by
    decide
  rw [← digitChar_mod]
  exact digits (value % 10) (Nat.mod_lt _ (by decide))

theorem isPlainAscii_pair {first second : Char}
    (plain : IsPlainAscii first ∧ IsPlainAscii second) :
    ∀ c ∈ [first, second], IsPlainAscii c := by
  rw [List.forall_mem_cons, List.forall_mem_singleton]
  exact plain

theorem isPlainAscii_writeUnit (value : Nat) :
    ∀ c ∈ writeUnit value, IsPlainAscii c := by
  have digit (number : Nat) : IsPlainAscii (hexDigit (number % 16)) :=
    isPlainAscii_hexDigit _ (Nat.mod_lt _ (by decide))
  simp only [writeUnit, List.forall_mem_cons, digit, List.not_mem_nil,
    false_implies, implies_true, and_true]
  decide

/-- A character is plain if it is no control character and needs no unit. -/
theorem isPlainAscii_writeLetter (letter : Char) :
    ∀ c ∈ writeLetter true letter, IsPlainAscii c := by
  rw [writeLetter]
  repeat' split
  all_goals try exact isPlainAscii_pair (by decide)
  · exact isPlainAscii_writeUnit letter.toNat
  · rw [writeUnits]
    split
    · exact isPlainAscii_writeUnit letter.toNat
    · intro c member
      rcases List.mem_append.1 member with (high | low)
      · exact isPlainAscii_writeUnit _ c high
      · exact isPlainAscii_writeUnit _ c low
  · next notControl narrow =>
      intro c member
      obtain rfl := List.mem_singleton.1 member
      refine ⟨Char.not_lt.1 notControl, ?_⟩
      simpa using narrow

theorem isPlainAscii_writeLiteral (text : String) :
    ∀ c ∈ writeLiteral true text, IsPlainAscii c := by
  intro c member
  rw [writeLiteral, List.cons_append, List.mem_cons, List.mem_append,
    List.mem_singleton, List.mem_flatMap] at member
  rcases member with (rfl | ⟨letter, -, written⟩ | rfl)
  · decide
  · exact isPlainAscii_writeLetter letter c written
  · decide

theorem isPlainAscii_writeMember {member : String × Value}
    (scalar : member.2.IsScalar) :
    ∀ c ∈ writeMember member, IsPlainAscii c := by
  have value : ∀ c ∈ writeValue recordStyle member.2, IsPlainAscii c := by
    cases content : member.2 with
    | text text =>
        rw [writeValue]
        exact isPlainAscii_writeLiteral text
    | number numeral =>
        rw [content] at scalar
        cases numeral with
        | natural value =>
            rw [writeValue, writeNumeral]
            intro c digit
            obtain ⟨number, rfl⟩ := mem_decimal digit
            exact isPlainAscii_digitChar number
        | negative | real => exact scalar.elim
    | null | boolean | list | object =>
        rw [content] at scalar
        exact scalar.elim
  intro c found
  rw [writeMember, List.mem_append, List.mem_append] at found
  rcases found with ((inName | between) | inValue)
  · exact isPlainAscii_writeLiteral member.1 c inName
  · exact isPlainAscii_pair (by decide) c between
  · exact value c inValue

end MeetingLog.Json
