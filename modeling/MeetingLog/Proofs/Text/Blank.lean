import MeetingLog.Text.Blank
import Mathlib.Data.List.DropRight
import Mathlib.Data.List.TakeWhile

/-!
# Trimming and words

Trimming leaves nothing of a text only if the text is blank, and a text that
neither begins nor ends with a blank character stays as it is. Words joined
with single spaces are found again as the same words.
-/

namespace MeetingLog.Text

theorem trimFront_eq_nil_iff (letters : List Char) :
    trimFront letters = [] ↔ letters.all isBlank = true := by
  rw [trimFront, List.dropWhile_eq_nil_iff, List.all_eq_true]

theorem trimBack_eq_nil_iff (letters : List Char) :
    trimBack letters = [] ↔ letters.all isBlank = true := by
  rw [trimBack, List.reverse_eq_nil_iff, List.dropWhile_eq_nil_iff,
    List.all_eq_true]
  simp only [List.mem_reverse]

/-- What is left in front of a list is not blank, so that nothing is left only
of a list that is blank throughout. -/
theorem trimLetters_eq_nil_iff (letters : List Char) :
    trimLetters letters = [] ↔ letters.all isBlank = true := by
  rw [trimLetters, trimBack_eq_nil_iff]
  constructor
  · intro blank
    rw [← trimFront_eq_nil_iff]
    cases shape : trimFront letters with
    | nil => rfl
    | cons c rest =>
        have notBlank : ¬ isBlank c = true := by
          have first := List.head?_dropWhile_not isBlank letters
          rw [← trimFront, shape] at first
          simpa using first
        rw [shape, List.all_cons, Bool.and_eq_true] at blank
        exact absurd blank.1 notBlank
  · intro blank
    rw [(trimFront_eq_nil_iff letters).2 blank]
    rfl

theorem trim_eq_empty_iff (text : String) :
    trim text = "" ↔ allBlank text = true := by
  rw [trim, allBlank, ← trimLetters_eq_nil_iff, ← String.toList_eq_nil_iff,
    String.toList_ofList]

/-- A list that neither begins nor ends with a blank character stays. -/
theorem trimLetters_eq_self {first last : Char} {middle : List Char}
    (front : isBlank first = false) (back : isBlank last = false) :
    trimLetters (first :: (middle ++ [last])) = first :: (middle ++ [last]) := by
  have reversed : (first :: (middle ++ [last])).reverse =
      last :: (middle.reverse ++ [first]) := by
    simp
  rw [trimLetters, trimFront,
    List.dropWhile_cons_of_neg (by simp [front]), trimBack, reversed,
    List.dropWhile_cons_of_neg (by simp [back]), ← reversed,
    List.reverse_reverse]

theorem mem_trimLetters {letters : List Char} {c : Char}
    (member : c ∈ trimLetters letters) : c ∈ letters := by
  rw [trimLetters, trimBack, List.mem_reverse] at member
  have inFront := (List.dropWhile_suffix _).mem member
  rw [List.mem_reverse] at inFront
  exact (List.dropWhile_suffix _).mem inFront

/-- A trimmed list that is not empty ends with a character that is not
blank. -/
theorem exists_last_trimLetters {letters : List Char}
    (notEmpty : trimLetters letters ≠ []) :
    ∃ front last, trimLetters letters = front ++ [last] ∧
      isBlank last = false := by
  rw [trimLetters, trimBack] at notEmpty ⊢
  generalize trimFront letters = inner at notEmpty ⊢
  cases shape : inner.reverse.dropWhile isBlank with
  | nil =>
      rw [shape] at notEmpty
      exact absurd rfl notEmpty
  | cons last rest =>
      refine ⟨rest.reverse, last, List.reverse_cons, ?_⟩
      have first := List.head?_dropWhile_not isBlank inner.reverse
      rw [shape] at first
      simpa using first

/-- A trimmed list begins with a character that is not blank. -/
theorem isBlank_of_trimLetters_cons {letters rest : List Char} {c : Char}
    (shape : trimLetters letters = c :: rest) : isBlank c = false := by
  -- Trimming at the back keeps the first character.
  have starts : trimLetters letters <+: trimFront letters := by
    rw [trimLetters, trimBack, ← List.reverse_suffix, List.reverse_reverse]
    exact List.dropWhile_suffix _
  obtain ⟨blanks, split⟩ := starts
  have first := List.head?_dropWhile_not isBlank letters
  rw [← trimFront, ← split, shape] at first
  simpa using first

/-- What has been trimmed stays as it is. -/
theorem trimLetters_trimLetters (letters : List Char) :
    trimLetters (trimLetters letters) = trimLetters letters := by
  have front : trimFront (trimLetters letters) = trimLetters letters := by
    cases shape : trimLetters letters with
    | nil => rfl
    | cons c rest =>
        have visible := isBlank_of_trimLetters_cons shape
        rw [trimFront, List.dropWhile_cons_of_neg (by simp [visible])]
  rw [trimLetters, front, trimLetters, trimBack, trimBack,
    List.reverse_reverse, List.dropWhile_idempotent]

theorem trim_trim (text : String) : trim (trim text) = trim text := by
  rw [trim, trim, String.toList_ofList, trimLetters_trimLetters]

/-- `HasVisibleEnds text` means that the text neither begins nor ends with a
blank character. -/
structure HasVisibleEnds (text : String) : Prop where
  front : ∀ c, text.toList.head? = some c → isBlank c = false
  back : ∀ c, text.toList.getLast? = some c → isBlank c = false

/-- `IsTrimming text trimmed` means that the first text is the second one with
blank characters around it, and the second neither begins nor ends with one. -/
structure IsTrimming (text trimmed : String) : Prop where
  cut : ∃ front back, allBlank front = true ∧ allBlank back = true ∧
    text = front ++ trimmed ++ back
  visible : HasVisibleEnds trimmed

theorem hasVisibleEnds_trim (text : String) : HasVisibleEnds (trim text) := by
  constructor
  · intro c first
    rw [trim, String.toList_ofList] at first
    obtain ⟨rest, shape⟩ := List.head?_eq_some_iff.1 first
    exact isBlank_of_trimLetters_cons shape
  · intro c last
    rw [trim, String.toList_ofList] at last
    have notEmpty : trimLetters text.toList ≠ [] := by
      rintro empty
      rw [empty] at last
      cases last
    obtain ⟨front, found, shape, visible⟩ := exists_last_trimLetters notEmpty
    rw [shape, List.getLast?_concat] at last
    exact Option.some.inj last ▸ visible

/-- Trimming cuts off blank characters only. -/
theorem exists_trimLetters (letters : List Char) :
    ∃ front back, front.all isBlank = true ∧ back.all isBlank = true ∧
      letters = front ++ trimLetters letters ++ back := by
  refine ⟨letters.takeWhile isBlank,
    ((trimFront letters).reverse.takeWhile isBlank).reverse, ?_, ?_, ?_⟩
  · exact List.all_takeWhile
  · rw [List.all_reverse]
    exact List.all_takeWhile
  · have back : trimLetters letters ++
        ((trimFront letters).reverse.takeWhile isBlank).reverse =
        trimFront letters := by
      rw [trimLetters, trimBack, ← List.reverse_append,
        List.takeWhile_append_dropWhile, List.reverse_reverse]
    rw [List.append_assoc, back, trimFront, List.takeWhile_append_dropWhile]

theorem isTrimming_trim (text : String) : IsTrimming text (trim text) := by
  obtain ⟨front, back, blankFront, blankBack, split⟩ :=
    exists_trimLetters text.toList
  refine ⟨⟨.ofList front, .ofList back, ?_, ?_, ?_⟩, hasVisibleEnds_trim text⟩
  · rw [allBlank, String.toList_ofList, blankFront]
  · rw [allBlank, String.toList_ofList, blankBack]
  · rw [trim, ← String.ofList_append, ← String.ofList_append, ← split,
      String.ofList_toList]

/-! ## Words -/

/-- `IsWord letters` means that the letters are not empty and none of them is
blank. -/
def IsWord (letters : List Char) : Prop :=
  letters ≠ [] ∧ ∀ c ∈ letters, isBlank c = false

theorem isWord_of_mem_words {letters word : List Char}
    (member : word ∈ words letters) : IsWord word := by
  induction letters generalizing word with
  | nil => exact absurd member List.not_mem_nil
  | cons c rest inductionHypothesis =>
      rw [words] at member
      split at member
      · exact inductionHypothesis member
      next visible =>
      have notBlank : isBlank c = false := by simpa using visible
      have single : IsWord [c] :=
        ⟨List.cons_ne_nil _ _, by simpa using notBlank⟩
      split at member
      · rcases List.mem_cons.1 member with (rfl | later)
        · exact single
        · exact inductionHypothesis later
      split at member
      · rcases List.mem_cons.1 member with (rfl | later)
        · exact single
        · exact absurd later List.not_mem_nil
      · next first others shape =>
          rcases List.mem_cons.1 member with (rfl | later)
          · have inWords : first ∈ words rest := by
              rw [shape]
              exact List.mem_cons_self
            have proper := inductionHypothesis inWords
            refine ⟨List.cons_ne_nil _ _, fun d found => ?_⟩
            rcases List.mem_cons.1 found with (rfl | inFirst)
            · exact notBlank
            · exact proper.2 d inFirst
          · exact inductionHypothesis
              (by rw [shape]; exact List.mem_cons_of_mem _ later)

/-- A word in front of something that begins no word is the first word. -/
theorem words_append {word : List Char} (proper : IsWord word)
    {rest : List Char} (ends : startsBlank rest = true) :
    words (word ++ rest) = word :: words rest := by
  obtain ⟨notEmpty, visible⟩ := proper
  induction word with
  | nil => exact absurd rfl notEmpty
  | cons c others inductionHypothesis =>
      have notBlank : ¬ isBlank c = true := by
        simpa using visible c List.mem_cons_self
      cases others with
      | nil =>
          rw [List.singleton_append, words, if_neg notBlank, if_pos ends]
      | cons d others =>
          have later := inductionHypothesis (List.cons_ne_nil _ _)
            fun e found => visible e (List.mem_cons_of_mem _ found)
          have goesOn : ¬ startsBlank ((d :: others) ++ rest) = true := by
            have next := visible d (by simp)
            simpa [startsBlank] using next
          rw [List.cons_append, words, if_neg notBlank, if_neg goesOn, later]

theorem joinWords_cons_cons (word next : List Char)
    (others : List (List Char)) :
    joinWords (word :: next :: others) =
      word ++ ' ' :: joinWords (next :: others) :=
  rfl

theorem words_joinWords {found : List (List Char)}
    (proper : ∀ word ∈ found, IsWord word) :
    words (joinWords found) = found := by
  induction found with
  | nil => rfl
  | cons word others inductionHypothesis =>
      have first := proper word List.mem_cons_self
      have later := inductionHypothesis fun next member =>
        proper next (List.mem_cons_of_mem _ member)
      cases others with
      | nil =>
          have alone : words (word ++ []) = word :: words [] :=
            words_append first rfl
          rw [List.append_nil] at alone
          rw [joinWords, alone, words]
      | cons next others =>
          have space (letters : List Char) :
              words (' ' :: letters) = words letters := by
            rw [words, if_pos (by decide)]
          rw [joinWords_cons_cons, words_append first rfl, space, later]

/-- Words that are joined hold no blank character but spaces. -/
theorem mem_joinWords {found : List (List Char)}
    (proper : ∀ word ∈ found, IsWord word) {c : Char}
    (member : c ∈ joinWords found) : c = ' ' ∨ isBlank c = false := by
  induction found with
  | nil => exact absurd member List.not_mem_nil
  | cons word others inductionHypothesis =>
      have first := proper word List.mem_cons_self
      cases others with
      | nil => exact .inr (first.2 c member)
      | cons next others =>
          rw [joinWords_cons_cons, List.mem_append, List.mem_cons] at member
          rcases member with inFirst | space | later
          · exact .inr (first.2 c inFirst)
          · exact .inl space
          · exact inductionHypothesis (fun entry inOthers =>
              proper entry (List.mem_cons_of_mem _ inOthers)) later

/-- Words that are joined end with the last letter of the last word. -/
theorem exists_last_joinWords {found : List (List Char)}
    (proper : ∀ word ∈ found, IsWord word) (notEmpty : found ≠ []) :
    ∃ front last, joinWords found = front ++ [last] ∧
      isBlank last = false := by
  induction found with
  | nil => exact absurd rfl notEmpty
  | cons word others inductionHypothesis =>
      obtain ⟨letters, visible⟩ := proper word List.mem_cons_self
      cases others with
      | nil =>
          exact ⟨word.dropLast, word.getLast letters,
            (List.dropLast_append_getLast letters).symm,
            visible _ (List.getLast_mem letters)⟩
      | cons next others =>
          obtain ⟨front, last, joined, ends⟩ := inductionHypothesis
            (fun entry inOthers =>
              proper entry (List.mem_cons_of_mem _ inOthers))
            (List.cons_ne_nil _ _)
          refine ⟨word ++ ' ' :: front, last, ?_, ends⟩
          rw [joinWords_cons_cons, joined, List.append_assoc,
            List.cons_append]

/-- Joined again, the words of something are its words. -/
theorem words_joined (letters : List Char) :
    words (joinWords (words letters)) = words letters :=
  words_joinWords fun _ member => isWord_of_mem_words member

theorem words_eq_nil_iff (letters : List Char) :
    words letters = [] ↔ letters.all isBlank = true := by
  induction letters with
  | nil => exact iff_of_true rfl rfl
  | cons c rest inductionHypothesis =>
      rw [words, List.all_cons, Bool.and_eq_true]
      by_cases blank : isBlank c = true
      · rw [if_pos blank, inductionHypothesis]
        exact (and_iff_right blank).symm
      · rw [if_neg blank]
        refine iff_of_false ?_ fun both => blank both.1
        split
        · exact List.cons_ne_nil _ _
        · split <;> exact List.cons_ne_nil _ _

/-- Collapsing a text does not change what is left of it when it is
squeezed. -/
theorem squeeze_collapse (text : String) :
    squeeze (collapse text) = squeeze text := by
  rw [squeeze, collapse, String.toList_ofList, words_joined]
  rfl

/-! ## Words without what is blank -/

/-- The letters that are not blank. -/
def visibleLetters (letters : List Char) : List Char :=
  letters.filter fun c => !isBlank c

/-- The words hold all letters that are not blank, in order. -/
theorem flatten_words (letters : List Char) :
    (words letters).flatten = visibleLetters letters := by
  induction letters with
  | nil => rfl
  | cons c rest inductionHypothesis =>
      rw [visibleLetters] at inductionHypothesis ⊢
      rw [words]
      by_cases blank : isBlank c = true
      · rw [if_pos blank, inductionHypothesis,
          List.filter_cons_of_neg (by simp [blank])]
      rw [if_neg blank, List.filter_cons_of_pos (by simp [blank]),
        ← inductionHypothesis]
      split
      · rw [List.flatten_cons, List.singleton_append]
      · cases words rest with
        | nil => rfl
        | cons word others =>
            rw [List.flatten_cons, List.flatten_cons, List.cons_append]

theorem squeeze_eq_iff (text other : String) :
    squeeze text = squeeze other ↔
      visibleLetters text.toList = visibleLetters other.toList := by
  rw [squeeze, squeeze, flatten_words, flatten_words]
  exact ⟨fun same => String.ofList_injective same, congrArg String.ofList⟩

theorem words_blank_append {blanks : List Char}
    (blank : blanks.all isBlank = true) (letters : List Char) :
    words (blanks ++ letters) = words letters := by
  induction blanks with
  | nil => rfl
  | cons c others inductionHypothesis =>
      rw [List.all_cons, Bool.and_eq_true] at blank
      rw [List.cons_append, words, if_pos blank.1,
        inductionHypothesis blank.2]

theorem words_append_blank (letters : List Char) {blanks : List Char}
    (blank : blanks.all isBlank = true) :
    words (letters ++ blanks) = words letters := by
  induction letters with
  | nil => rw [List.nil_append, (words_eq_nil_iff blanks).2 blank, words]
  | cons c rest inductionHypothesis =>
      have starts : startsBlank (rest ++ blanks) = startsBlank rest := by
        cases rest with
        | cons => rfl
        | nil =>
            cases blanks with
            | nil => rfl
            | cons d others =>
                rw [List.all_cons, Bool.and_eq_true] at blank
                exact blank.1
      rw [List.cons_append, words, starts, inductionHypothesis, words]

theorem words_trim (text : String) :
    words (trim text).toList = words text.toList := by
  obtain ⟨front, back, blankFront, blankBack, split⟩ :=
    exists_trimLetters text.toList
  rw [trim, String.toList_ofList]
  conv_rhs => rw [split]
  rw [words_append_blank _ blankBack, words_blank_append blankFront]

/-- Words that are joined begin with the first letter of the first word. -/
theorem isBlank_of_joinWords_cons {found : List (List Char)}
    (proper : ∀ word ∈ found, IsWord word) {c : Char} {rest : List Char}
    (joined : joinWords found = c :: rest) : isBlank c = false := by
  cases found with
  | nil => cases joined
  | cons word others =>
      obtain ⟨letters, visible⟩ := proper word List.mem_cons_self
      cases word with
      | nil => exact absurd rfl letters
      | cons d letters =>
          have first : c = d := by
            cases others with
            | nil => exact (List.cons.inj joined).1.symm
            | cons => exact (List.cons.inj joined).1.symm
          rw [first]
          exact visible d List.mem_cons_self

theorem hasVisibleEnds_collapse (text : String) :
    HasVisibleEnds (collapse text) := by
  have proper : ∀ word ∈ words text.toList, IsWord word :=
    fun _ member => isWord_of_mem_words member
  constructor
  · intro c first
    rw [collapse, String.toList_ofList] at first
    obtain ⟨rest, joined⟩ := List.head?_eq_some_iff.1 first
    exact isBlank_of_joinWords_cons proper joined
  · intro c last
    rw [collapse, String.toList_ofList] at last
    have notEmpty : words text.toList ≠ [] := by
      intro empty
      rw [empty] at last
      cases last
    obtain ⟨front, found, joined, visible⟩ :=
      exists_last_joinWords proper notEmpty
    rw [joined, List.getLast?_concat] at last
    exact Option.some.inj last ▸ visible

theorem collapse_collapse (text : String) :
    collapse (collapse text) = collapse text := by
  rw [collapse, collapse, String.toList_ofList, words_joined]

theorem wordCount_collapse (text : String) :
    wordCount (collapse text) = wordCount text := by
  rw [wordCount, collapse, String.toList_ofList, words_joined, wordCount]

theorem wordCount_trim (text : String) :
    wordCount (trim text) = wordCount text := by
  rw [wordCount, words_trim, wordCount]

theorem squeeze_trim (text : String) : squeeze (trim text) = squeeze text := by
  rw [squeeze, words_trim, squeeze]

end MeetingLog.Text
