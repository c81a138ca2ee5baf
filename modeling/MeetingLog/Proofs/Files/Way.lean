import MeetingLog.Proofs.Files.Place
import MeetingLog.Proofs.Files.Vacancy

/-!
# Ways to directories

The way of a path is made of the places at which one comes by when following
its names. Creating a directory and those around it puts directories on the way
where there was nothing, and changes nothing else.
-/

namespace MeetingLog.Files.FileTree

variable {tree other last : FileTree} {path : Path}

/-- Slashes at the end of a path are left out. -/
theorem withoutSlashes_cases (path : Path) :
    withoutSlashes path = path ∨
      ∃ rest, path = withoutSlashes path ++ slash :: rest := by
  have whole := List.takeWhile_append_dropWhile
    (p := fun byte => decide (byte = slash)) (l := path.reverse)
  have slashes : ∀ byte ∈ path.reverse.takeWhile fun byte => byte = slash,
      byte = slash := fun byte member =>
    of_decide_eq_true (List.all_eq_true.1 List.all_takeWhile byte member)
  unfold withoutSlashes
  split
  · exact .inl rfl
  · have back := congrArg List.reverse whole
    rw [List.reverse_append, List.reverse_reverse] at back
    generalize path.reverse.takeWhile
      (fun byte => decide (byte = slash)) = ending at slashes back
    generalize path.reverse.dropWhile
      (fun byte => decide (byte = slash)) = kept at back ⊢
    rcases List.eq_nil_or_concat ending with rfl | ⟨inner, byte, rfl⟩
    · left
      rwa [List.reverse_nil, List.append_nil] at back
    · right
      obtain rfl := slashes byte (by simp)
      refine ⟨inner.reverse, ?_⟩
      rw [← back]
      simp

theorem names_withoutSlashes (path : Path) :
    names (withoutSlashes path) <+: names path := by
  rcases withoutSlashes_cases path with same | ⟨rest, shape⟩
  · simp only [same, List.prefix_rfl]
  · exact names_of_outer shape

/-- `tree.IsOnWay path place` means that one comes by the place when following
the names of the path. -/
def IsOnWay (tree : FileTree) (path place : Path) : Prop :=
  ∃ front, front <+: names path ∧ tree.walk [] front = .ok place

theorem IsOnWay.keep {place : Path} (onWay : tree.IsOnWay path place)
    (kept : KeepsDirectories tree other) : other.IsOnWay path place := by
  obtain ⟨front, first, walked⟩ := onWay
  exact ⟨front, first, kept.walk front walked⟩

theorem IsOnWay.further {outer place : Path}
    (onWay : tree.IsOnWay outer place)
    (first : names outer <+: names path) : tree.IsOnWay path place := by
  obtain ⟨front, before, walked⟩ := onWay
  exact ⟨front, before.trans first, walked⟩

theorem OnlyPrepares.kept (prepares : OnlyPrepares tree other) :
    KeepsDirectories tree other := by
  intro place found
  rcases prepares place with same | ⟨nothing, -⟩
  · exact same.trans found
  · rw [found] at nothing
    cases nothing

/-- `PreparesWay tree other path` means that the second tree is the first one
with directories on the way of the path where that one has nothing. -/
structure PreparesWay (tree other : FileTree) (path : Path) : Prop where
  prepares : OnlyPrepares tree other
  onWay : ∀ place, other.node? place ≠ tree.node? place →
    other.IsOnWay path place

namespace PreparesWay

theorem refl (tree : FileTree) (path : Path) :
    PreparesWay tree tree path where
  prepares := .refl tree
  onWay _ different := absurd rfl different

theorem trans (first : PreparesWay tree other path)
    (second : PreparesWay other last path) : PreparesWay tree last path where
  prepares := first.prepares.trans second.prepares
  onWay place different := by
    by_cases same : last.node? place = other.node? place
    · refine (first.onWay place ?_).keep second.prepares.kept
      rw [← same]
      exact different
    · exact second.onWay place same

theorem further {outer : Path} (prepared : PreparesWay tree other outer)
    (first : names outer <+: names path) : PreparesWay tree other path where
  prepares := prepared.prepares
  onWay place different := (prepared.onWay place different).further first

end PreparesWay

theorem createDirectory_preparesWay
    (creation : tree.createDirectory path = .ok other) :
    PreparesWay tree other path := by
  have prepares := createDirectory_onlyPrepares creation
  unfold createDirectory at creation
  cases resolved : tree.resolve (withoutSlashes path) with
  | error error =>
      rw [resolved] at creation
      cases creation
  | ok place =>
      rw [resolved] at creation
      simp only [Except.bind] at creation
      split at creation
      · cases creation
      · next nothing =>
          obtain rfl := Except.ok.inj creation
          refine ⟨prepares, fun elsewhere different => ?_⟩
          have notRoot : place ≠ [] := by
            rintro rfl
            cases nothing
          rw [node?_put notRoot] at different
          split at different
          · next same =>
              subst same
              exact ⟨_, names_withoutSlashes path,
                prepares.kept.walk _ (walk_of_resolve resolved)⟩
          · exact absurd rfl different

theorem ensureDirectory_preparesWay (tree : FileTree) (path : Path) :
    PreparesWay tree (tree.ensureDirectory path).1 path := by
  unfold ensureDirectory
  split
  · next creation => exact createDirectory_preparesWay creation
  · split
    · exact .refl tree path
    · exact .refl tree path

/-- The root is there already. -/
theorem createWithin_root (bound : Nat) (tree : FileTree) :
    (createWithin bound tree [slash]).1 = tree := by
  cases bound with
  | zero => rfl
  | succ bound =>
      have exists_already :
          tree.createDirectory [slash] = .error .alreadyExists := rfl
      rw [createWithin, if_neg (by decide), exists_already]
      simp only
      split <;> rfl

theorem createWithin_nothing (bound : Nat) (tree : FileTree) :
    (createWithin bound tree []).1 = tree := by
  cases bound with
  | zero => rfl
  | succ bound => rw [createWithin, if_pos rfl]

/-- Creating a directory, and those around it, changes only what is on the way
of its path. -/
theorem createWithin_preparesWay (bound : Nat) (tree : FileTree)
    (path : Path) :
    PreparesWay tree (createWithin bound tree path).1 path := by
  induction bound generalizing tree path with
  | zero => exact .refl tree path
  | succ bound inductionHypothesis =>
      rw [createWithin]
      split
      · exact .refl tree path
      · split
        · next creation => exact createDirectory_preparesWay creation
        · split
          · exact .refl tree path
          · next outer parent =>
              have around : PreparesWay tree
                  (createWithin bound tree outer).1 path := by
                rcases parent?_cases parent with rfl | rfl | ⟨rest, shape⟩
                · rw [createWithin_nothing]
                  exact .refl tree path
                · rw [createWithin_root]
                  exact .refl tree path
                · exact (inductionHypothesis tree outer).further
                    (names_of_outer shape)
              generalize createWithin bound tree outer = reached at around ⊢
              obtain ⟨between, error | success⟩ := reached
              · exact around
              · exact around.trans (ensureDirectory_preparesWay between path)
        · split
          · exact .refl tree path
          · exact .refl tree path

theorem createDirectories_preparesWay (tree : FileTree) (path : Path) :
    PreparesWay tree (tree.createDirectories path).1 path :=
  createWithin_preparesWay _ tree path

end MeetingLog.Files.FileTree
