import MeetingLog.Proofs.Text.Cuts
import MeetingLog.Proofs.Text.Utf8

/-!
# Names in paths

A path is known by the names between its slashes. It ends with one of them,
which is its last name unless it stands for a directory, and joining a name to a
directory makes a path that ends with the name.
-/

namespace MeetingLog.Files

open MeetingLog.Text

/-! ## Names between slashes -/

theorem slash_not_mem_names {path name : Path}
    (member : name ∈ names path) : slash ∉ name := by
  rw [names_eq_splitOn] at member
  exact mark_not_mem_splitOn member

/-- `EndsWith path last` means that `last` is what stands behind the last slash
of the path, or the whole path if it has none. -/
def EndsWith (path last : Path) : Prop :=
  slash ∉ last ∧ ∃ front : Path,
    path = front ++ last ∧ (front = [] ∨ ∃ outer, front = outer ++ [slash])

theorem exists_endsWith (path : Path) : ∃ last, EndsWith path last := by
  by_cases inside : slash ∈ path
  · obtain ⟨back, front, equality, plain⟩ :=
      List.eq_append_cons_of_mem (List.mem_reverse.2 inside)
    refine ⟨back.reverse, ?_, front.reverse ++ [slash], ?_,
      .inr ⟨front.reverse, rfl⟩⟩
    · simpa using plain
    · have whole := congrArg List.reverse equality
      simpa using whole
  · exact ⟨path, inside, [], rfl, .inl rfl⟩

theorem EndsWith.names_eq {path last : Path} (ends : EndsWith path last) :
    ∃ front, names path = front ++ [last] := by
  obtain ⟨plain, front, rfl, rfl | ⟨outer, rfl⟩⟩ := ends
  · refine ⟨[], ?_⟩
    rw [names_eq_splitOn, List.nil_append, List.splitOn_eq_singleton plain]
    rfl
  · refine ⟨outer.splitOn slash, ?_⟩
    rw [names_eq_splitOn, List.append_assoc, List.singleton_append,
      List.splitOn_append_cons_self, List.splitOn_eq_singleton plain]

/-- What is put behind a path stands behind what the path ends with. -/
theorem EndsWith.append {path last suffix : Path} (ends : EndsWith path last)
    (plain : slash ∉ suffix) : EndsWith (path ++ suffix) (last ++ suffix) := by
  obtain ⟨lastPlain, front, rfl, before⟩ := ends
  refine ⟨?_, front, List.append_assoc _ _ _, before⟩
  rw [List.mem_append, not_or]
  exact ⟨lastPlain, plain⟩

/-- `IsProper name` means that the name does not stand for a directory relative
to another. -/
structure IsProper (name : Path) : Prop where
  notEmpty : name ≠ []
  notHere : name ≠ [dot]
  notOuter : name ≠ [dot, dot]

theorem IsProper.of_long {name : Path} (long : 2 < name.length) :
    IsProper name where
  notEmpty := by
    rintro rfl
    simp at long
  notHere := by
    rintro rfl
    simp at long
  notOuter := by
    rintro rfl
    simp at long

theorem dropTrailing_of_proper {front last : Path} (plain : slash ∉ last)
    (notEmpty : last ≠ []) (notHere : last ≠ [dot]) :
    dropTrailing (front ++ last).reverse = (front ++ last).reverse := by
  rw [List.reverse_append]
  cases shape : last.reverse with
  | nil => exact absurd (List.reverse_eq_nil_iff.1 shape) notEmpty
  | cons byte others =>
      have different : byte ≠ slash := by
        rintro rfl
        refine plain (List.mem_reverse.1 ?_)
        rw [shape]
        exact List.mem_cons_self
      rw [List.cons_append, dropTrailing, if_neg different, if_neg ?_]
      rintro ⟨rfl, behind⟩
      cases others with
      | nil =>
          refine notHere ?_
          have whole := congrArg List.reverse shape
          simpa using whole
      | cons next more =>
          obtain rfl := Option.some.inj behind
          refine plain (List.mem_reverse.1 ?_)
          rw [shape]
          simp

theorem forall_ne_slash {bytes : Path} (plain : slash ∉ bytes) :
    ∀ byte ∈ bytes.reverse, decide (byte ≠ slash) = true := by
  intro byte member
  refine decide_eq_true ?_
  rintro rfl
  exact plain (List.mem_reverse.1 member)

theorem takeWhile_of_plain {front last : Path} (plain : slash ∉ last)
    (before : front = [] ∨ ∃ outer, front = outer ++ [slash]) :
    (front ++ last).reverse.takeWhile (fun byte => byte ≠ slash) =
      last.reverse := by
  rw [List.reverse_append,
    List.takeWhile_append_of_pos (forall_ne_slash plain)]
  rcases before with rfl | ⟨outer, rfl⟩
  · simp
  · simp

/-- A path that ends with a proper name has it for its last name. -/
theorem EndsWith.lastName? {path last : Path} (ends : EndsWith path last)
    (proper : IsProper last) : lastName? path = some last := by
  obtain ⟨plain, front, equality, before⟩ := ends
  have stays : dropTrailing (front ++ last).reverse = (front ++ last).reverse :=
    dropTrailing_of_proper plain proper.notEmpty proper.notHere
  have some_name : (splitLast? path).map Prod.snd = some last := by
    rw [splitLast?, equality, stays, takeWhile_of_plain plain before]
    simp [proper.notEmpty]
  unfold Files.lastName?
  split
  · next absent =>
      rw [absent] at some_name
      cases some_name
  · next name found =>
      rw [found] at some_name
      obtain rfl := Option.some.inj some_name
      exact if_neg (not_or.2 ⟨proper.notOuter, proper.notHere⟩)

theorem EndsWith.inj {path first second : Path} (ends : EndsWith path first)
    (endsToo : EndsWith path second) : first = second := by
  obtain ⟨front, equality⟩ := ends.names_eq
  obtain ⟨frontToo, equalityToo⟩ := endsToo.names_eq
  rw [equality] at equalityToo
  exact List.singleton_inj.1
    (List.append_inj_right' equalityToo rfl)

theorem endsWith_join (directory : Path) {name : Path}
    (plain : slash ∉ name) : EndsWith (join directory name) name := by
  refine ⟨plain, ?_⟩
  have relative : name.head? ≠ some slash := fun head =>
    plain (List.mem_of_mem_head? head)
  rw [join, if_neg relative]
  split
  · next inside =>
      refine ⟨directory, rfl, ?_⟩
      rcases inside with rfl | ends
      · exact .inl rfl
      · exact .inr (List.getLast?_eq_some_iff.1 ends)
  · exact ⟨directory ++ [slash], by simp, .inr ⟨_, rfl⟩⟩

/-- Something behind a name in a directory stands behind the path as well. -/
theorem join_append {name : Path} {first : UInt8} {rest : Path}
    (shape : name = first :: rest) (noSlash : first ≠ slash)
    (directory suffix : Path) :
    join directory (name ++ suffix) = join directory name ++ suffix := by
  have head : (name ++ suffix).head? ≠ some slash := by
    rw [shape]
    simpa using noSlash
  have headToo : name.head? ≠ some slash := by
    rw [shape]
    simpa using noSlash
  rw [join, join, if_neg head, if_neg headToo]
  split
  · exact (List.append_assoc _ _ _).symm
  · simp

/-! ## Stems -/

/-- What a name has behind its stem begins with a dot. -/
theorem stemOf_shape (name : Path) :
    name = stemOf name ∨ ∃ ending, name = stemOf name ++ dot :: ending := by
  have whole := List.takeWhile_append_dropWhile
    (p := fun byte => decide (byte ≠ dot)) (l := name.reverse)
  simp only [stemOf]
  cases shape : name.reverse.dropWhile fun byte => decide (byte ≠ dot) with
  | nil => exact .inl rfl
  | cons byte stem =>
      cases stem with
      | nil => exact .inl rfl
      | cons next more =>
          right
          have isDot : byte = dot := by
            have first := List.head?_dropWhile_not
              (fun byte => decide (byte ≠ dot)) name.reverse
            rw [shape] at first
            simpa using first
          subst isDot
          refine ⟨(name.reverse.takeWhile
            fun byte => decide (byte ≠ dot)).reverse, ?_⟩
          rw [shape] at whole
          have back := congrArg List.reverse whole
          rw [List.reverse_append, List.reverse_cons, List.reverse_reverse,
            List.append_assoc, List.singleton_append] at back
          exact back.symm

/-- The stem of a name with an extension is what stands before its last dot. -/
theorem stemOf_append {stem ending : Path} (notEmpty : stem ≠ [])
    (plain : dot ∉ ending) : stemOf (stem ++ dot :: ending) = stem := by
  have dropped : (stem ++ dot :: ending).reverse.dropWhile
      (fun byte => decide (byte ≠ dot)) = dot :: stem.reverse := by
    rw [List.reverse_append, List.reverse_cons, List.append_assoc,
      List.dropWhile_append_of_pos]
    · simp
    · intro byte member
      refine decide_eq_true ?_
      rintro rfl
      exact plain (List.mem_reverse.1 member)
  rw [stemOf, dropped]
  cases shape : stem.reverse with
  | nil => exact absurd (List.reverse_eq_nil_iff.1 shape) notEmpty
  | cons byte rest =>
      rw [← List.reverse_reverse stem, shape]

theorem slash_not_mem_stemOf {name : Path} (plain : slash ∉ name) :
    slash ∉ stemOf name := by
  rcases stemOf_shape name with same | ⟨ending, shape⟩
  · rw [← same]
    exact plain
  · rw [shape, List.mem_append, not_or] at plain
    exact plain.1

/-! ## What is shown -/

theorem shown_bytesOf (text : String) : shown (bytesOf text) = text := by
  rw [shown, bytesOf, decodeLenient_encode]
  exact String.ofList_toList

theorem slash_not_mem_shown {path : Path} (plain : slash ∉ path) :
    '/' ∉ (shown path).toList := by
  rw [shown, String.toList_ofList]
  exact fun member =>
    plain (mem_of_mem_decodeLenient (by decide) (by decide) member)

theorem slash_not_mem_bytesOf {text : String} (plain : '/' ∉ text.toList) :
    slash ∉ bytesOf text := fun member =>
  plain (mem_of_mem_encode (by decide) member)

/-! ## Outer paths -/

theorem names_of_outer {path outer rest : Path}
    (shape : path = outer ++ slash :: rest) : names outer <+: names path := by
  rw [names_eq_splitOn, names_eq_splitOn, shape, List.splitOn_append_cons_self]
  exact List.prefix_append _ _

/-- The bytes are reversed, so what is dropped ends with the slash that
stood first, unless the root is what remains. -/
theorem dropTrailing_eq (bytes : Path) :
    ∃ dropped, bytes = dropped ++ dropTrailing bytes ∧
      (dropTrailing bytes = [slash] ∨
        dropped = [] ∧ bytes.head? ≠ some slash ∨
        ∃ inner, dropped = inner ++ [slash]) := by
  fun_induction dropTrailing bytes with
  | case1 => exact ⟨[], rfl, .inr (.inl ⟨rfl, nofun⟩)⟩
  | case2 => exact ⟨[], rfl, .inl rfl⟩
  | case3 rest notEmpty inductionHypothesis =>
      obtain ⟨dropped, equality, root | ⟨rfl, -⟩ | ⟨inner, rfl⟩⟩ :=
        inductionHypothesis
      · refine ⟨slash :: dropped, ?_, .inl root⟩
        rw [List.cons_append, ← equality]
      · refine ⟨[slash], ?_, .inr (.inr ⟨[], rfl⟩)⟩
        rw [List.nil_append] at equality
        rw [← equality]
        rfl
      · refine ⟨slash :: (inner ++ [slash]), ?_,
          .inr (.inr ⟨slash :: inner, rfl⟩)⟩
        rw [List.cons_append, ← equality]
  | case4 byte rest notSlash isDot inductionHypothesis =>
      obtain ⟨dropped, equality, root | ⟨rfl, noSlash⟩ | ⟨inner, rfl⟩⟩ :=
        inductionHypothesis
      · refine ⟨byte :: dropped, ?_, .inl root⟩
        rw [List.cons_append, ← equality]
      · exact absurd isDot.2 noSlash
      · refine ⟨byte :: (inner ++ [slash]), ?_,
          .inr (.inr ⟨byte :: inner, rfl⟩)⟩
        rw [List.cons_append, ← equality]
  | case5 byte rest notSlash _ =>
      refine ⟨[], rfl, .inr (.inl ⟨rfl, ?_⟩)⟩
      simpa using notSlash

/-- The directory of a path stands in front of a slash of the path, unless it
is the root or nothing at all. -/
theorem parent?_cases {path outer : Path}
    (parent : parent? path = some outer) :
    outer = [] ∨ outer = [slash] ∨
      ∃ rest, path = outer ++ slash :: rest := by
  obtain ⟨dropped, whole, -⟩ := dropTrailing_eq path.reverse
  simp only [parent?, splitLast?] at parent
  generalize dropTrailing path.reverse = reversed at whole parent
  split at parent
  · cases parent
  · obtain rfl := Option.some.inj parent
    have cut := List.takeWhile_append_dropWhile
      (p := fun byte => decide (byte ≠ slash)) (l := reversed)
    have behind := List.head?_dropWhile_not
      (fun byte => decide (byte ≠ slash)) reversed
    generalize reversed.takeWhile (fun byte => decide (byte ≠ slash)) = name
      at cut
    generalize reversed.dropWhile (fun byte => decide (byte ≠ slash)) = front
      at cut behind
    rw [← cut, List.drop_left]
    simp only [withoutTrailing, List.reverse_reverse]
    obtain ⟨ending, equality, root | ⟨rfl, notSlash⟩ | ⟨inner, rfl⟩⟩ :=
      dropTrailing_eq front
    · right; left
      rw [root]
      rfl
    · left
      cases front with
      | nil => rfl
      | cons byte rest => exact absurd (by simpa using behind) notSlash
    · right; right
      refine ⟨(dropped ++ name ++ inner).reverse, ?_⟩
      have back := congrArg List.reverse whole
      rw [List.reverse_reverse] at back
      generalize dropTrailing front = outer at equality ⊢
      rw [back, ← cut, equality]
      simp

end MeetingLog.Files
