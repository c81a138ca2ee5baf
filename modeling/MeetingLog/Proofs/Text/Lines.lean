import MeetingLog.Text.Lines
import Mathlib.Data.List.Induction

/-!
# Line ends

A line that ends with another character than a carriage return keeps its end,
and what stands in front of such a character is never touched.
-/

namespace MeetingLog.Text

/-- `IsOneLine text` means that the text has no line feed. -/
def IsOneLine (text : String) : Prop :=
  '\n' ∉ text.toList

instance (text : String) : Decidable (IsOneLine text) :=
  decidable_of_iff (text.toList.contains '\n' = false) (by simp [IsOneLine])

theorem IsOneLine.append {front back : String} (oneLine : IsOneLine front)
    (oneLineToo : IsOneLine back) : IsOneLine (front ++ back) := by
  intro member
  rw [String.toList_append] at member
  rcases List.mem_append.1 member with (inFront | inBack)
  · exact oneLine inFront
  · exact oneLineToo inBack

theorem dropReturn_append_singleton {last : Char} (other : last ≠ '\r')
    (letters : List Char) :
    dropReturn (letters ++ [last]) = letters ++ [last] := by
  induction letters with
  | nil =>
      rw [List.nil_append, dropReturn.eq_def]
      split
      · next equality => cases equality
      · next equality => exact absurd (List.cons.inj equality).1 other
      · next c rest _ equality =>
          obtain ⟨rfl, rfl⟩ := List.cons.inj equality
          rfl
  | cons c others inductionHypothesis =>
      have notLast : others ++ [last] ≠ [] :=
        List.append_ne_nil_of_right_ne_nil _ (List.cons_ne_nil _ _)
      rw [List.cons_append, dropReturn.eq_def]
      split
      · next equality => cases equality
      · next equality => exact absurd (List.cons.inj equality).2 notLast
      · next first rest _ equality =>
          obtain ⟨rfl, rfl⟩ := List.cons.inj equality
          rw [inductionHypothesis]

theorem dropReturn_append_return (letters : List Char) :
    dropReturn (letters ++ ['\r']) = letters := by
  induction letters with
  | nil => rfl
  | cons c others inductionHypothesis =>
      have notLast : others ++ ['\r'] ≠ [] :=
        List.append_ne_nil_of_right_ne_nil _ (List.cons_ne_nil _ _)
      rw [List.cons_append, dropReturn.eq_def]
      split
      · next equality => cases equality
      · next equality => exact absurd (List.cons.inj equality).2 notLast
      · next first rest _ equality =>
          obtain ⟨rfl, rfl⟩ := List.cons.inj equality
          rw [inductionHypothesis]

theorem dropReturn_eq (letters : List Char) :
    dropReturn letters = letters ∨
      letters = dropReturn letters ++ ['\r'] := by
  cases letters using List.reverseRecOn with
  | nil => exact .inl rfl
  | append_singleton front last =>
      by_cases isReturn : last = '\r'
      · right
        rw [isReturn, dropReturn_append_return]
      · exact .inl (dropReturn_append_singleton isReturn front)

/-! ## Trimmed line ends -/

theorem trimLineEnd_append_return (letters : List Char) :
    trimLineEnd (letters ++ ['\r']) = trimLineEnd letters := by
  rw [trimLineEnd, List.reverse_append, List.reverse_singleton,
    List.singleton_append, List.dropWhile_cons_of_pos (by decide),
    trimLineEnd]

/-- The return that a line loses would be trimmed anyway. -/
theorem trimLineEnd_dropReturn (letters : List Char) :
    trimLineEnd (dropReturn letters) = trimLineEnd letters := by
  rcases dropReturn_eq letters with (same | ended)
  · rw [same]
  · have trimmed := trimLineEnd_append_return (dropReturn letters)
    rw [← ended] at trimmed
    exact trimmed.symm

theorem trimLineEnd_append_singleton {last : Char} (noReturn : last ≠ '\r')
    (noFeed : last ≠ '\n') (letters : List Char) :
    trimLineEnd (letters ++ [last]) = letters ++ [last] := by
  rw [trimLineEnd, List.reverse_append, List.reverse_singleton,
    List.singleton_append,
    List.dropWhile_cons_of_neg (by simp [noReturn, noFeed]),
    List.reverse_cons, List.reverse_reverse]

/-- What stands in front of a message is not trimmed. -/
theorem trimLineEnd_append {last : Char} (noReturn : last ≠ '\r')
    (noFeed : last ≠ '\n') (front message : List Char) :
    trimLineEnd (front ++ [last] ++ message) =
      front ++ [last] ++ trimLineEnd message := by
  induction message using List.reverseRecOn with
  | nil =>
      rw [List.append_nil]
      exact (trimLineEnd_append_singleton noReturn noFeed front).trans
        (List.append_nil _).symm
  | append_singleton others c inductionHypothesis =>
      rw [← List.append_assoc]
      by_cases ending : c = '\r' ∨ c = '\n'
      · have shorter (letters : List Char) :
            trimLineEnd (letters ++ [c]) = trimLineEnd letters := by
          rw [trimLineEnd, List.reverse_append, List.reverse_singleton,
            List.singleton_append,
            List.dropWhile_cons_of_pos (by simpa using ending), trimLineEnd]
        rw [shorter, shorter, inductionHypothesis]
      · rw [not_or] at ending
        rw [trimLineEnd_append_singleton ending.1 ending.2,
          trimLineEnd_append_singleton ending.1 ending.2, List.append_assoc]

theorem trimLineEnd_prefix (letters : List Char) :
    trimLineEnd letters <+: letters := by
  have ending := List.dropWhile_suffix (l := letters.reverse)
    fun c => decide (c = '\r') || decide (c = '\n')
  rw [← List.reverse_prefix, List.reverse_reverse] at ending
  rw [trimLineEnd]
  simpa only [Bool.decide_or] using ending

end MeetingLog.Text
