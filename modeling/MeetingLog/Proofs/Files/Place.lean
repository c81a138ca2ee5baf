import MeetingLog.Proofs.Files.Path
import MeetingLog.Proofs.Files.Tree
import Mathlib.Data.List.TakeWhile

/-!
# Places of paths

A path that leads to a file ends with the name of the file, and this is how the
place ends as well. So two paths that end with different names do not lead to
one file, whatever the directories in them are. The files of one log are apart
for this reason.
-/

namespace MeetingLog.Files.FileTree

variable {tree : FileTree}

theorem walk_of_resolve {path place : Path}
    (resolved : tree.resolve path = .ok place) :
    tree.walk [] (names path) = .ok place := by
  unfold resolve at resolved
  split at resolved
  · cases resolved
  · split at resolved
    · cases resolved
    · exact resolved

theorem walk_append (tree : FileTree) (front : List Path)
    (last : Path) :
    ∀ place, tree.walk place (front ++ [last]) =
      (tree.walk place front).bind fun inner => tree.enter inner last := by
  induction front with
  | nil =>
      intro place
      show (tree.enter place last).bind (fun next => tree.walk next []) =
        tree.enter place last
      cases tree.enter place last <;> rfl
  | cons name others inductionHypothesis =>
      intro place
      rw [List.cons_append, walk, walk]
      cases tree.enter place name with
      | error error => rfl
      | ok inner => exact inductionHypothesis inner

/-- `tree.Reached place` means that a walk from the root can come to the place:
it is the root, or something, though it may not be there yet, in a directory
that is reached. -/
inductive Reached (tree : FileTree) : Path → Prop where
  | root : Reached tree []
  | inner {outer name place : Path} (reached : Reached tree outer)
      (directory : tree.node? outer = some .directory)
      (plain : slash ∉ name) (proper : IsProper name)
      (entered : place = if outer = [] then name else outer ++ slash :: name) :
      Reached tree place

theorem endsWith_inner {outer name place : Path}
    (plain : slash ∉ name)
    (entered : place = if outer = [] then name else outer ++ slash :: name) :
    EndsWith place name := by
  refine ⟨plain, ?_⟩
  subst entered
  split
  · exact ⟨[], rfl, .inl rfl⟩
  · exact ⟨outer ++ [slash], by simp, .inr ⟨_, rfl⟩⟩

theorem outerPlace_inner {outer name place : Path}
    (plain : slash ∉ name)
    (entered : place = if outer = [] then name else outer ++ slash :: name) :
    outerPlace place = outer := by
  have all := forall_ne_slash plain
  subst entered
  unfold outerPlace
  split
  · next root =>
      rw [List.dropWhile_eq_nil_iff.2 all, root]
      rfl
  · rw [List.reverse_append, List.reverse_cons, List.append_assoc,
      List.dropWhile_append_of_pos all]
    simp

/-- From a place that is reached the way out leads to a directory. -/
theorem Reached.outerPlace {place : Path} (reached : tree.Reached place) :
    tree.Reached (outerPlace place) ∧
      tree.node? (FileTree.outerPlace place) = some .directory := by
  cases reached with
  | root => exact ⟨.root, rfl⟩
  | inner outside directory plain proper entered =>
      rw [outerPlace_inner plain entered]
      exact ⟨outside, directory⟩

theorem enter_cases {place name next : Path}
    (entered : tree.enter place name = .ok next) :
    tree.node? place = some .directory ∧
      ((name = [] ∨ name = [dot]) ∧ next = place ∨
        name = [dot, dot] ∧ next = outerPlace place ∨
        IsProper name ∧
          next = if place = [] then name else place ++ slash :: name) := by
  unfold enter at entered
  split at entered
  · cases entered
  · next found =>
      refine ⟨found, ?_⟩
      split at entered
      · next here => exact .inl ⟨here, (Except.ok.inj entered).symm⟩
      · next notHere =>
          rw [not_or] at notHere
          split at entered
          · next outer =>
              exact .inr (.inl ⟨outer, (Except.ok.inj entered).symm⟩)
          · next notOuter =>
              refine .inr (.inr ⟨⟨notHere.1, notHere.2, notOuter⟩, ?_⟩)
              split at entered
              · cases entered
              · split at entered
                · next root =>
                    rw [if_pos root]
                    exact (Except.ok.inj entered).symm
                · next inside =>
                    rw [if_neg inside]
                    exact (Except.ok.inj entered).symm
  · cases entered

theorem Reached.enter {place name next : Path}
    (reached : tree.Reached place) (plain : slash ∉ name)
    (entered : tree.enter place name = .ok next) : tree.Reached next := by
  obtain ⟨directory, ⟨-, rfl⟩ | ⟨-, rfl⟩ | ⟨proper, inner⟩⟩ :=
    enter_cases entered
  · exact reached
  · exact reached.outerPlace.1
  · exact .inner reached directory plain proper inner

theorem Reached.walk (steps : List Path) :
    ∀ {place next : Path}, tree.Reached place →
      (∀ name ∈ steps, slash ∉ name) →
      tree.walk place steps = .ok next → tree.Reached next := by
  induction steps with
  | nil =>
      intro place next reached plain walked
      exact Except.ok.inj walked ▸ reached
  | cons name others inductionHypothesis =>
      intro place next reached plain walked
      rw [FileTree.walk] at walked
      cases entered : tree.enter place name with
      | error error =>
          rw [entered] at walked
          cases walked
      | ok inner =>
          rw [entered] at walked
          exact inductionHypothesis
            (reached.enter (plain name List.mem_cons_self) entered)
            (fun other among => plain other (List.mem_cons_of_mem _ among))
            walked

/-- A path leads to a place by entering its last name somewhere. -/
theorem enter_of_resolve {path last place : Path}
    (ends : EndsWith path last) (resolved : tree.resolve path = .ok place) :
    ∃ outer, tree.Reached outer ∧ tree.enter outer last = .ok place := by
  obtain ⟨front, split⟩ := ends.names_eq
  have walked := walk_of_resolve resolved
  rw [split, walk_append] at walked
  cases inner : tree.walk [] front with
  | error error =>
      rw [inner] at walked
      cases walked
  | ok outer =>
      rw [inner] at walked
      refine ⟨outer, Reached.walk front .root (fun name among => ?_) inner,
        walked⟩
      have member : name ∈ names path := by
        rw [split]
        exact List.mem_append_left _ among
      exact slash_not_mem_names member

/-- A place ends with the name by which a path leads to it, if that is not the
name of a directory relative to another. -/
theorem endsWith_of_resolve {path last place : Path}
    (ends : EndsWith path last) (proper : IsProper last)
    (resolved : tree.resolve path = .ok place) : EndsWith place last := by
  obtain ⟨outer, -, entered⟩ := enter_of_resolve ends resolved
  obtain ⟨-, ⟨rfl | rfl, -⟩ | ⟨rfl, -⟩ | ⟨-, inner⟩⟩ := enter_cases entered
  · exact absurd rfl proper.notEmpty
  · exact absurd rfl proper.notHere
  · exact absurd rfl proper.notOuter
  · exact endsWith_inner ends.1 inner

/-- Paths that end with different names lead to different places. -/
theorem areApart_of_endsWith {path pathToo last lastToo : Path}
    (ends : EndsWith path last) (endsToo : EndsWith pathToo lastToo)
    (proper : IsProper last) (properToo : IsProper lastToo)
    (different : last ≠ lastToo) : AreApart path pathToo := by
  rintro tree place other resolved resolvedToo rfl
  exact different ((endsWith_of_resolve ends proper resolved).inj
    (endsWith_of_resolve endsToo properToo resolvedToo))

/-- Paths that differ only in what they end with lead to different places. -/
theorem append_areApart {first second : Path} (path : Path)
    (firstPlain : slash ∉ first) (secondPlain : slash ∉ second)
    (firstLong : 2 < first.length) (secondLong : 2 < second.length)
    (different : first ≠ second) :
    AreApart (path ++ first) (path ++ second) := by
  obtain ⟨last, ends⟩ := exists_endsWith path
  refine areApart_of_endsWith (ends.append firstPlain)
    (ends.append secondPlain) (.of_long ?_) (.of_long ?_) fun same =>
      different (List.append_cancel_left same)
  · rw [List.length_append]
    omega
  · rw [List.length_append]
    omega

/-- What is not a directory is found by its own name. -/
theorem lastName?_of_resolve {path place : Path}
    (resolved : tree.resolve path = .ok place)
    (notDirectory : tree.node? place ≠ some .directory) :
    ∃ name, lastName? path = some name ∧ IsProper name ∧
      EndsWith path name ∧ EndsWith place name := by
  obtain ⟨last, ends⟩ := exists_endsWith path
  obtain ⟨outer, reached, entered⟩ := enter_of_resolve ends resolved
  obtain ⟨directory, ⟨-, rfl⟩ | ⟨-, rfl⟩ | ⟨proper, inner⟩⟩ :=
    enter_cases entered
  · exact absurd directory notDirectory
  · exact absurd reached.outerPlace.2 notDirectory
  · exact ⟨last, ends.lastName? proper, proper, ends,
      endsWith_inner ends.1 inner⟩

end MeetingLog.Files.FileTree
