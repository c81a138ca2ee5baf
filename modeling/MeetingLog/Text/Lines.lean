/-!
# Lines

A text is cut at its line feeds. The pieces keep everything between the cuts;
the lines drop one carriage return in front of each line feed and do not count
an empty piece at the very end.
-/

namespace MeetingLog.Text

/-- The parts of a list of characters between its line feeds. A list with `n`
line feeds has `n + 1` pieces. -/
def pieces : List Char → List (List Char)
  | [] => [[]]
  | c :: rest =>
      if c = '\n' then [] :: pieces rest
      else
        match pieces rest with
        | [] => [[c]]
        | piece :: others => (c :: piece) :: others

/-- A piece without the carriage return at its end, if it has one. -/
def dropReturn : List Char → List Char
  | [] => []
  | ['\r'] => []
  | c :: rest => c :: dropReturn rest

/-- The lines that a list of pieces stands for: every piece but the last ended
with a line feed, and the last one is a line only if it is not empty. -/
def linesOfPieces : List (List Char) → List (List Char)
  | [] => []
  | [piece] => if piece.isEmpty then [] else [piece]
  | piece :: others => dropReturn piece :: linesOfPieces others

def linesOf (letters : List Char) : List (List Char) :=
  linesOfPieces (pieces letters)

def lines (text : String) : List String :=
  (linesOf text.toList).map String.ofList

/-- A line without the carriage returns and line feeds at its end. -/
def trimLineEnd (letters : List Char) : List Char :=
  (letters.reverse.dropWhile fun c => c = '\r' || c = '\n').reverse

theorem pieces_ne_nil (letters : List Char) :
    pieces letters ≠ [] := by
  cases letters with
  | nil => simp [pieces]
  | cons c rest =>
      rw [pieces]
      split
      · simp
      · split <;> simp

theorem pieces_append_feed
    {line : List Char} (noFeed : '\n' ∉ line) (rest : List Char) :
    pieces (line ++ '\n' :: rest) = line :: pieces rest := by
  induction line with
  | nil => simp [pieces]
  | cons c others inductionHypothesis =>
      have different : c ≠ '\n' := by
        rintro rfl
        exact noFeed List.mem_cons_self
      have later : '\n' ∉ others := fun member =>
        noFeed (List.mem_cons_of_mem c member)
      simp [pieces, different, inductionHypothesis later]

theorem linesOf_append_feed
    {line : List Char} (noFeed : '\n' ∉ line) (rest : List Char) :
    linesOf (line ++ '\n' :: rest) = dropReturn line :: linesOf rest := by
  rw [linesOf, pieces_append_feed noFeed, linesOf]
  cases equality : pieces rest with
  | nil => exact absurd equality (pieces_ne_nil rest)
  | cons piece others => rfl

end MeetingLog.Text
