import Mathlib.Computability.Language
import MeetingLog.Meeting.Basic

/-!
# Courses of presence

What goes on record about the presence of one participant forms a word. In an
orderly course somebody joins, is paused and woken up in turn, and leaves; in a
loose course somebody who is present can be paused and woken up at any time.
Whether a word is the beginning of a course is found by following it from one
state of presence to the next.
-/

namespace MeetingLog

open scoped Computability

namespace Course

/-- The word of one letter. -/
def letter (kind : LifecycleKind) : Language LifecycleKind :=
  {[kind]}

/-- What can happen between joining and leaving in an orderly course. -/
def orderlyStay : Language LifecycleKind :=
  (letter .paused * letter .resumed)∗ * (1 + letter .paused)

/-- What can happen between joining and leaving in a loose course. -/
def looseStay : Language LifecycleKind :=
  (letter .paused + letter .resumed)∗

/-- The words of participants who join, stay for a while and leave, any number
of times. -/
def visits (stay : Language LifecycleKind) : Language LifecycleKind :=
  (letter .joined * (stay * letter .left))∗

/-- Words in which pauses and their ends take turns. -/
def orderly : Language LifecycleKind :=
  visits orderlyStay

/-- Words in which pauses and their ends come in any order. -/
def loose : Language LifecycleKind :=
  visits looseStay

/-- `Begins word courses` means that the word is the beginning of a course. -/
def Begins (word : List LifecycleKind) (courses : Language LifecycleKind) :
    Prop :=
  ∃ rest, word ++ rest ∈ courses

/-! ## Following a word -/

/-- The presence after something went on record, if that can happen. Nobody is
present where there is no presence. In a loose course the presence may stay what
it is when somebody is paused or woken up. -/
def advance (isLoose : Bool) :
    Option Presence → LifecycleKind → Option (Option Presence)
  | none, .joined => some (some .active)
  | some .active, .paused => some (some .idle)
  | some .idle, .paused => if isLoose then some (some .idle) else none
  | some .active, .resumed => if isLoose then some (some .active) else none
  | some .idle, .resumed => some (some .active)
  | some _, .left => some none
  | _, _ => none

/-- The presence after a word, if it can be followed. -/
def follow (isLoose : Bool) (state : Option Presence)
    (word : List LifecycleKind) : Option (Option Presence) :=
  word.foldlM (advance isLoose) state

@[simp]
theorem follow_nil (isLoose : Bool) (state : Option Presence) :
    follow isLoose state [] = some state :=
  rfl

theorem follow_cons (isLoose : Bool) (state : Option Presence)
    (kind : LifecycleKind) (word : List LifecycleKind) :
    follow isLoose state (kind :: word) =
      (advance isLoose state kind).bind fun next =>
        follow isLoose next word :=
  rfl

theorem follow_append (isLoose : Bool) (state : Option Presence)
    (front back : List LifecycleKind) :
    follow isLoose state (front ++ back) =
      (follow isLoose state front).bind fun next =>
        follow isLoose next back :=
  List.foldlM_append

theorem follow_eq_none_of_append {isLoose : Bool} {state : Option Presence}
    {front : List LifecycleKind} (stuck : follow isLoose state front = none)
    (back : List LifecycleKind) :
    follow isLoose state (front ++ back) = none := by
  rw [follow_append, stuck]
  rfl

/-! ## What can follow -/

/-- What can still follow in a course. -/
def rest : Bool → Option Presence → Language LifecycleKind
  | false, none => orderly
  | false, some .active => orderlyStay * (letter .left * orderly)
  | false, some .idle =>
      (1 + letter .resumed * orderlyStay) * (letter .left * orderly)
  | true, none => loose
  | true, some _ => looseStay * (letter .left * loose)

theorem visits_eq (stay : Language LifecycleKind) :
    visits stay =
      1 + letter .joined * (stay * (letter .left * visits stay)) := by
  have unrolled := Language.one_add_self_mul_kstar_eq_kstar
    (letter .joined * (stay * letter .left))
  rw [mul_assoc, mul_assoc] at unrolled
  exact unrolled.symm

theorem orderlyStay_eq :
    orderlyStay =
      1 + letter .paused * (1 + letter .resumed * orderlyStay) := by
  have unrolled := Language.one_add_self_mul_kstar_eq_kstar
    (letter .paused * letter .resumed)
  calc orderlyStay
      = (1 + letter .paused * letter .resumed *
          (letter .paused * letter .resumed)∗) * (1 + letter .paused) := by
        rw [unrolled, orderlyStay]
    _ = 1 + letter .paused * (1 + letter .resumed * orderlyStay) := by
        rw [add_mul, one_mul, mul_add (letter .paused), mul_one, add_assoc,
          orderlyStay]
        simp only [mul_assoc]

theorem looseStay_eq :
    looseStay = 1 + (letter .paused * looseStay +
      letter .resumed * looseStay) := by
  have unrolled := Language.one_add_self_mul_kstar_eq_kstar
    (letter .paused + letter .resumed)
  rw [add_mul] at unrolled
  exact unrolled.symm

theorem rest_none (isLoose : Bool) :
    rest isLoose none = 1 + letter .joined * rest isLoose (some .active) := by
  cases isLoose with
  | false => exact visits_eq orderlyStay
  | true => exact visits_eq looseStay

theorem orderly_active :
    rest false (some .active) =
      letter .left * rest false none +
        letter .paused * rest false (some .idle) := by
  calc orderlyStay * (letter .left * orderly)
      = (1 + letter .paused * (1 + letter .resumed * orderlyStay)) *
          (letter .left * orderly) := by
        rw [← orderlyStay_eq]
    _ = letter .left * orderly +
          letter .paused * ((1 + letter .resumed * orderlyStay) *
            (letter .left * orderly)) := by
        rw [add_mul, one_mul, mul_assoc (letter .paused)]

theorem orderly_idle :
    rest false (some .idle) =
      letter .left * rest false none +
        letter .resumed * rest false (some .active) := by
  show (1 + letter .resumed * orderlyStay) * (letter .left * orderly) = _
  rw [add_mul, one_mul, mul_assoc (letter .resumed)]
  rfl

theorem loose_some (presence : Presence) :
    rest true (some presence) =
      letter .left * rest true none +
        (letter .paused * rest true (some .idle) +
          letter .resumed * rest true (some .active)) := by
  calc looseStay * (letter .left * loose)
      = (1 + (letter .paused * looseStay + letter .resumed * looseStay)) *
          (letter .left * loose) := by
        rw [← looseStay_eq]
    _ = letter .left * loose +
          (letter .paused * (looseStay * (letter .left * loose)) +
            letter .resumed * (looseStay * (letter .left * loose))) := by
        rw [add_mul, one_mul, add_mul, mul_assoc (letter .paused),
          mul_assoc (letter .resumed)]

/-! ## Words letter by letter -/

theorem nil_not_mem_letter_mul (kind : LifecycleKind)
    (words : Language LifecycleKind) : [] ∉ letter kind * words := by
  rw [Language.mem_mul]
  rintro ⟨front, rfl, back, -, equality⟩
  cases equality

theorem cons_mem_letter_mul {kind other : LifecycleKind}
    {words : Language LifecycleKind} {word : List LifecycleKind} :
    kind :: word ∈ letter other * words ↔ kind = other ∧ word ∈ words := by
  rw [Language.mem_mul]
  constructor
  · rintro ⟨front, rfl, back, member, equality⟩
    obtain ⟨rfl, rfl⟩ := List.cons.inj equality
    exact ⟨rfl, member⟩
  · rintro ⟨rfl, member⟩
    exact ⟨[kind], rfl, word, member, rfl⟩

theorem nil_mem_rest_iff (isLoose : Bool) (state : Option Presence) :
    [] ∈ rest isLoose state ↔ state = none := by
  rcases state with none | presence
  · rw [rest_none, Language.mem_add]
    exact iff_of_true (.inl rfl) rfl
  · refine iff_of_false ?_ (Option.some_ne_none presence)
    cases isLoose with
    | false =>
        cases presence with
        | active =>
            rw [orderly_active]
            simp only [Language.mem_add, nil_not_mem_letter_mul, or_self,
              not_false_iff]
        | idle =>
            rw [orderly_idle]
            simp only [Language.mem_add, nil_not_mem_letter_mul, or_self,
              not_false_iff]
    | true =>
        rw [loose_some]
        simp only [Language.mem_add, nil_not_mem_letter_mul, or_self,
          not_false_iff]

theorem cons_mem_rest_iff (isLoose : Bool) (state : Option Presence)
    (kind : LifecycleKind) (word : List LifecycleKind) :
    kind :: word ∈ rest isLoose state ↔
      ∃ next, advance isLoose state kind = some next ∧
        word ∈ rest isLoose next := by
  have notOne : kind :: word ∉ (1 : Language LifecycleKind) := by
    rw [Language.mem_one]
    exact List.cons_ne_nil kind word
  rcases state with none | presence
  · rw [rest_none, Language.mem_add, cons_mem_letter_mul]
    cases kind <;> simp [advance, notOne]
  · cases isLoose with
    | false =>
        cases presence with
        | active =>
            rw [orderly_active]
            simp only [Language.mem_add, cons_mem_letter_mul]
            cases kind <;> simp [advance]
        | idle =>
            rw [orderly_idle]
            simp only [Language.mem_add, cons_mem_letter_mul]
            cases kind <;> simp [advance]
    | true =>
        rw [loose_some]
        simp only [Language.mem_add, cons_mem_letter_mul]
        cases presence <;> cases kind <;> simp [advance]

/-- A word belongs to a state if it leads from there to absence. -/
theorem mem_rest_iff {isLoose : Bool} {state : Option Presence}
    {word : List LifecycleKind} :
    word ∈ rest isLoose state ↔ follow isLoose state word = some none := by
  induction word generalizing state with
  | nil =>
      rw [nil_mem_rest_iff, follow_nil, Option.some_inj]
  | cons kind others inductionHypothesis =>
      rw [cons_mem_rest_iff, follow_cons, Option.bind_eq_some_iff]
      simp only [inductionHypothesis]

/-- Whoever is present can leave. -/
theorem exists_follow_eq_none (isLoose : Bool) (state : Option Presence) :
    ∃ word, follow isLoose state word = some none := by
  cases state with
  | none => exact ⟨[], rfl⟩
  | some presence =>
      cases presence with
      | active => exact ⟨[.left], rfl⟩
      | idle => exact ⟨[.left], rfl⟩

/-- A word is the beginning of a course if it can be followed. -/
theorem begins_rest_iff (isLoose : Bool) (state : Option Presence)
    {word : List LifecycleKind} :
    Begins word (rest isLoose state) ↔
      ∃ next, follow isLoose state word = some next := by
  constructor
  · rintro ⟨back, member⟩
    rw [mem_rest_iff, follow_append, Option.bind_eq_some_iff] at member
    obtain ⟨next, followed, -⟩ := member
    exact ⟨next, followed⟩
  · -- A word that can be followed ends in a state from which all can leave.
    rintro ⟨next, followed⟩
    obtain ⟨back, ends⟩ := exists_follow_eq_none isLoose next
    refine ⟨back, mem_rest_iff.2 ?_⟩
    rw [follow_append, followed]
    exact ends

theorem begins_orderly_iff {word : List LifecycleKind} :
    Begins word orderly ↔ ∃ state, follow false none word = some state :=
  begins_rest_iff false none

theorem begins_loose_iff {word : List LifecycleKind} :
    Begins word loose ↔ ∃ state, follow true none word = some state :=
  begins_rest_iff true none

end Course

end MeetingLog
