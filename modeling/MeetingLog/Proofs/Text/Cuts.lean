import MeetingLog.Files.Path
import MeetingLog.Text.Lines

/-!
# Cuts

The pieces of a text are what it is cut into at its line feeds, and the names in
a path are what it is cut into at its slashes. No piece has a mark in it, and
what is put in front of a text goes into its first piece.
-/

namespace MeetingLog

theorem Text.pieces_eq_splitOn (letters : List Char) :
    pieces letters = letters.splitOn '\n' := by
  induction letters with
  | nil => rfl
  | cons c rest inductionHypothesis =>
      rw [pieces, List.splitOn_cons_eq_if_modifyHead, inductionHypothesis]
      simp only [beq_iff_eq]
      split
      · rfl
      · cases shape : rest.splitOn '\n' with
        | nil => exact absurd shape (List.splitOn_ne_nil _ rest)
        | cons first others => rfl

theorem Files.names_eq_splitOn (path : Path) :
    names path = path.splitOn slash := by
  induction path with
  | nil => rfl
  | cons byte rest inductionHypothesis =>
      rw [names, List.splitOn_cons_eq_if_modifyHead, inductionHypothesis]
      simp only [beq_iff_eq]
      split
      · rfl
      · cases shape : rest.splitOn slash with
        | nil => exact absurd shape (List.splitOn_ne_nil _ rest)
        | cons first others => rfl

namespace Text

variable {α : Type} [BEq α] [LawfulBEq α] {mark : α} {letters : List α}

theorem mark_not_mem_splitOn {piece : List α}
    (member : piece ∈ letters.splitOn mark) : mark ∉ piece := by
  induction letters generalizing piece with
  | nil =>
      obtain rfl := List.mem_singleton.1 member
      exact List.not_mem_nil
  | cons c rest inductionHypothesis =>
      rw [List.splitOn_cons_eq_if_modifyHead] at member
      split at member
      · rcases List.mem_cons.1 member with rfl | later
        · exact List.not_mem_nil
        · exact inductionHypothesis later
      · next different =>
          cases shape : rest.splitOn mark with
          | nil => exact absurd shape (List.splitOn_ne_nil mark rest)
          | cons first others =>
              rw [shape] at member inductionHypothesis
              rcases List.mem_cons.1 member with rfl | later
              · rw [List.mem_cons, not_or]
                refine ⟨fun same => different ?_,
                  inductionHypothesis List.mem_cons_self⟩
                rw [same, beq_self_eq_true]
              · exact inductionHypothesis (List.mem_cons_of_mem _ later)

/-- What stands in front of a text and has no mark belongs to the first
piece. -/
theorem splitOn_append {front first : List α} {later : List (List α)}
    (plain : mark ∉ front) (cut : letters.splitOn mark = first :: later) :
    (front ++ letters).splitOn mark = (front ++ first) :: later := by
  induction front with
  | nil => exact cut
  | cons c rest inductionHypothesis =>
      rw [List.mem_cons, not_or] at plain
      rw [List.cons_append, List.splitOn_cons_eq_if_modifyHead,
        if_neg (by simpa using Ne.symm plain.1), inductionHypothesis plain.2]
      rfl

omit [LawfulBEq α] in
/-- A text begins with its first piece. -/
theorem prefix_of_splitOn {first : List α} {later : List (List α)}
    (cut : letters.splitOn mark = first :: later) : first <+: letters := by
  induction letters generalizing first later with
  | nil =>
      obtain ⟨rfl, -⟩ := List.cons.inj cut
      exact List.prefix_rfl
  | cons c rest inductionHypothesis =>
      rw [List.splitOn_cons_eq_if_modifyHead] at cut
      split at cut
      · obtain ⟨rfl, -⟩ := List.cons.inj cut
        exact List.nil_prefix
      · cases shape : rest.splitOn mark with
        | nil => exact absurd shape (List.splitOn_ne_nil mark rest)
        | cons piece others =>
            rw [shape] at cut
            obtain ⟨rfl, -⟩ := List.cons.inj cut
            exact (List.prefix_cons_inj c).2 (inductionHypothesis shape)

end Text

end MeetingLog
