import MeetingLog.Proofs.Files.Tree

/-!
# Paths at which nothing is yet

A file can be created at a path that leads into a directory and to nothing
there. Such a path stays free while other files are written, and what is
appended to files takes no path that is free.
-/

namespace MeetingLog.Files.FileTree

open MeetingLog.Text

variable {tree other last : FileTree}

/-- `tree.IsFree path` means that there is nothing at the path and that a file
can be created there. -/
def IsFree (tree : FileTree) (path : Path) : Prop :=
  tree.find path = .error .notFound ∧
    ∃ created, tree.createFile path = .ok created

theorem isFree_iff {path : Path} :
    tree.IsFree path ↔
      ∃ place, tree.resolve path = .ok place ∧ tree.node? place = none := by
  rw [IsFree, find, createFile]
  cases resolved : tree.resolve path with
  | error error =>
      refine iff_of_false ?_ ?_
      · rintro ⟨-, created, creation⟩
        cases creation
      · rintro ⟨place, found, -⟩
        cases found
  | ok place =>
      constructor
      · rintro ⟨missing, -⟩
        refine ⟨place, rfl, ?_⟩
        cases node : tree.node? place with
        | none => rfl
        | some node =>
            simp only [Except.bind, node] at missing
            cases missing
      · rintro ⟨_, ⟨⟩, nothing⟩
        simp only [Except.bind, nothing]
        exact ⟨trivial, _, rfl⟩

theorem readText_of_find {path : Path}
    (missing : tree.find path = .error .notFound) :
    tree.readText path = .error .notFound := by
  rw [readText, readBytes, missing]
  rfl

/-- A free path stays free when something is written to a path apart. -/
theorem IsFree.keep {path pathToo : Path} (free : tree.IsFree path)
    (writes : WritesTo tree other pathToo) (apart : AreApart path pathToo) :
    other.IsFree path := by
  obtain ⟨place, resolved, nothing⟩ := isFree_iff.1 free
  refine isFree_iff.2 ⟨place, writes.kept.resolve resolved, ?_⟩
  rcases writes with rfl | ⟨changed, resolvedToo, change⟩
  · exact nothing
  · rw [change.same place (apart tree _ _ resolved resolvedToo)]
    exact nothing

/-! ## Appending -/

/-- `OnlyFills tree other` means that the second tree has the directories of
the first one, and nothing at a place where that one has nothing. -/
structure OnlyFills (tree other : FileTree) : Prop where
  kept : KeepsDirectories tree other
  nothing : ∀ place, tree.node? place = none → other.node? place = none

namespace OnlyFills

theorem refl (tree : FileTree) : OnlyFills tree tree :=
  ⟨.refl tree, fun _ nothing => nothing⟩

theorem trans (first : OnlyFills tree other) (second : OnlyFills other last) :
    OnlyFills tree last where
  kept := first.kept.trans second.kept
  nothing place found := second.nothing place (first.nothing place found)

theorem isFree (fills : OnlyFills tree other) {path : Path}
    (free : tree.IsFree path) : other.IsFree path := by
  obtain ⟨place, resolved, nothing⟩ := isFree_iff.1 free
  exact isFree_iff.2
    ⟨place, fills.kept.resolve resolved, fills.nothing place nothing⟩

end OnlyFills

theorem append_onlyFills {place : Path} {bytes : List UInt8}
    (appended : tree.append place bytes = .ok other) : OnlyFills tree other := by
  unfold append at appended
  split at appended
  · next content modified found =>
      obtain rfl := Except.ok.inj appended
      have file : tree.HasFile place content := ⟨modified, found⟩
      refine ⟨.put file.notDirectory _, fun elsewhere nothing => ?_⟩
      have different : elsewhere ≠ place := by
        rintro rfl
        rw [nothing] at found
        cases found
      rw [node?_put file.notRoot, if_neg different]
      exact nothing
  · split at appended
    · obtain rfl := Except.ok.inj appended
      exact .refl tree
    · cases appended
  · cases appended
  · cases appended

/-! ## Creating -/

/-- A file that is created at a free path is empty and takes what is
written. -/
theorem IsFree.createFile {path : Path} (free : tree.IsFree path) :
    ∃ created place, tree.createFile path = .ok (created, place) ∧
      tree.resolve path = .ok place ∧ created.HasFile place [] ∧
      ChangesOnly tree created place := by
  obtain ⟨place, resolved, nothing⟩ := isFree_iff.1 free
  obtain ⟨-, ⟨created, reached⟩, creation⟩ := free
  obtain ⟨resolvedToo, ⟨rfl, full⟩ | ⟨empty, change⟩⟩ :=
    createFile_ok creation
  · obtain rfl := Except.ok.inj (resolved.symm.trans resolvedToo)
    rw [nothing] at full
    cases full
  · exact ⟨created, reached, creation, resolvedToo, empty, change⟩

theorem IsFree.writeText {path : Path} (free : tree.IsFree path)
    (text : String) :
    (tree.writeText path text).2 = .ok () ∧
      (tree.writeText path text).1.readText path = .ok text := by
  obtain ⟨created, place, creation, resolved, empty, change⟩ :=
    free.createFile
  obtain ⟨written, appended, held, changeToo⟩ :=
    append_file empty (bytesOf text)
  rw [FileTree.writeText, creation]
  simp only [appended]
  exact ⟨trivial, readText_eq
    ((change.trans changeToo).kept.resolve resolved) held⟩

/-! ## Writing -/

/-- `tree.IsWritable path` means that the path leads to a file, or to nothing
yet, so that a text can be written there. -/
def IsWritable (tree : FileTree) (path : Path) : Prop :=
  ∃ place, tree.resolve path = .ok place ∧
    tree.node? place ≠ some .directory ∧ tree.node? place ≠ some .fullDevice

instance (tree : FileTree) (path : Path) :
    Decidable (tree.IsWritable path) :=
  match resolved : tree.resolve path with
  | .error _ => .isFalse fun ⟨_, found, _⟩ => by
      rw [resolved] at found
      cases found
  | .ok place =>
      decidable_of_iff
        (tree.node? place ≠ some .directory ∧
          tree.node? place ≠ some .fullDevice)
        ⟨fun fits => ⟨place, resolved, fits⟩, fun ⟨_, found, fits⟩ =>
          Except.ok.inj (resolved.symm.trans found) ▸ fits⟩

/-- A text can be written where nothing is yet. -/
theorem IsFree.isWritable {path : Path} (free : tree.IsFree path) :
    tree.IsWritable path := by
  obtain ⟨place, resolved, nothing⟩ := isFree_iff.1 free
  refine ⟨place, resolved, ?_⟩
  rw [nothing]
  exact ⟨nofun, nofun⟩

theorem IsWritable.writeText {path : Path} (writable : tree.IsWritable path)
    (text : String) : (tree.writeText path text).2 = .ok () := by
  obtain ⟨place, resolved, notDirectory, notFull⟩ := writable
  have creation : tree.createFile path =
      .ok (tree.put place (.file [] tree.today), place) := by
    rw [createFile, resolved]
    simp only [Except.bind]
  obtain ⟨-, ⟨-, full⟩ | ⟨empty, -⟩⟩ := createFile_ok creation
  · exact absurd full notFull
  · obtain ⟨written, appended, -, -⟩ := append_file empty (bytesOf text)
    rw [FileTree.writeText, creation]
    simp only [appended]

/-- Writing a file takes no other one's place. -/
theorem IsWritable.keep {path : Path} (writable : tree.IsWritable path)
    (pathToo : Path) (text : String) :
    (tree.writeText pathToo text).1.IsWritable path := by
  rcases writeText_cases tree pathToo text with
    same | ⟨changed, -, change, file⟩
  · rw [same]
    exact writable
  · obtain ⟨place, resolved, notDirectory, notFull⟩ := writable
    refine ⟨place, change.kept.resolve resolved, ?_⟩
    by_cases same : place = changed
    · obtain ⟨modified, found⟩ := file
      rw [same, found]
      exact ⟨nofun, nofun⟩
    · rw [change.same place same]
      exact ⟨notDirectory, notFull⟩

/-- What is appended to a file keeps it a file. -/
theorem IsWritable.append {path place : Path} {bytes : List UInt8}
    (writable : tree.IsWritable path)
    (appended : tree.append place bytes = .ok other) :
    other.IsWritable path := by
  obtain ⟨reached, resolved, notDirectory, notFull⟩ := writable
  refine ⟨reached, (append_onlyFills appended).kept.resolve resolved, ?_⟩
  unfold FileTree.append at appended
  split at appended
  · next content modified found =>
      obtain rfl := Except.ok.inj appended
      have file : tree.HasFile place content := ⟨modified, found⟩
      rw [node?_put file.notRoot]
      split
      · exact ⟨nofun, nofun⟩
      · exact ⟨notDirectory, notFull⟩
  · split at appended
    · obtain rfl := Except.ok.inj appended
      exact ⟨notDirectory, notFull⟩
    · cases appended
  · cases appended
  · cases appended

/-! ## Directories -/

/-- `OnlyPrepares tree other` means that the second tree is the first one with
directories at some places where that one has nothing. -/
def OnlyPrepares (tree other : FileTree) : Prop :=
  ∀ place, other.node? place = tree.node? place ∨
    tree.node? place = none ∧ other.node? place = some .directory

namespace OnlyPrepares

theorem refl (tree : FileTree) : OnlyPrepares tree tree :=
  fun _ => .inl rfl

theorem trans (first : OnlyPrepares tree other)
    (second : OnlyPrepares other last) : OnlyPrepares tree last := by
  intro place
  rcases first place with same | ⟨nothing, directory⟩
  · rw [← same]
    exact second place
  · rcases second place with sameToo | ⟨nothingToo, -⟩
    · exact .inr ⟨nothing, sameToo.trans directory⟩
    · rw [directory] at nothingToo
      cases nothingToo

theorem put {place : Path} (nothing : tree.node? place = none) :
    OnlyPrepares tree (tree.put place .directory) := by
  have notRoot : place ≠ [] := by
    rintro rfl
    simp [node?] at nothing
  intro elsewhere
  rw [node?_put notRoot]
  split
  · next same =>
      subst same
      exact .inr ⟨nothing, rfl⟩
  · exact .inl rfl

theorem enter (prepares : OnlyPrepares tree other) {place name next : Path}
    (entered : other.enter place name = .ok next) :
    tree.enter place name = .ok next ∨
      tree.enter place name = .error .notFound := by
  rcases prepares place with same | ⟨nothing, -⟩
  · left
    unfold FileTree.enter at entered ⊢
    rw [← same]
    exact entered
  · right
    rw [FileTree.enter, nothing]

theorem walk (prepares : OnlyPrepares tree other) (steps : List Path) :
    ∀ {place reached : Path}, other.walk place steps = .ok reached →
      tree.walk place steps = .ok reached ∨
        tree.walk place steps = .error .notFound := by
  induction steps with
  | nil =>
      intro place reached walked
      exact .inl walked
  | cons name others inductionHypothesis =>
      intro place reached walked
      rw [FileTree.walk] at walked ⊢
      cases entered : other.enter place name with
      | error error =>
          rw [entered] at walked
          cases walked
      | ok next =>
          rw [entered] at walked
          rcases prepares.enter entered with same | missing
          · rw [same]
            exact inductionHypothesis walked
          · rw [missing]
            exact .inr rfl

/-- What is free once directories were created was not there before. -/
theorem find (prepares : OnlyPrepares tree other) {path : Path}
    (free : other.IsFree path) : tree.find path = .error .notFound := by
  obtain ⟨place, resolved, nothing⟩ := isFree_iff.1 free
  have nothingBefore : tree.node? place = none := by
    rcases prepares place with same | ⟨before, -⟩
    · rw [← same]
      exact nothing
    · exact before
  have reached : tree.resolve path = .ok place ∨
      tree.resolve path = .error .notFound := by
    unfold FileTree.resolve at resolved ⊢
    split at resolved
    · cases resolved
    · next noZero =>
        rw [if_neg noZero]
        split at resolved
        · cases resolved
        · next notEmpty =>
            rw [if_neg notEmpty]
            exact prepares.walk _ resolved
  rcases reached with same | missing
  · rw [FileTree.find, same]
    simp only [Except.bind, nothingBefore]
  · rw [FileTree.find, missing]
    rfl

end OnlyPrepares

theorem createDirectory_onlyPrepares {path : Path}
    (creation : tree.createDirectory path = .ok other) :
    OnlyPrepares tree other := by
  unfold createDirectory at creation
  cases resolved : tree.resolve (withoutSlashes path) with
  | error error =>
      rw [resolved] at creation
      cases creation
  | ok place =>
      rw [resolved] at creation
      simp only [Except.bind] at creation
      split at creation
      · cases creation
      · next nothing =>
          obtain rfl := Except.ok.inj creation
          exact .put nothing

theorem ensureDirectory_onlyPrepares (tree : FileTree) (path : Path) :
    OnlyPrepares tree (tree.ensureDirectory path).1 := by
  unfold ensureDirectory
  split
  · next creation => exact createDirectory_onlyPrepares creation
  · split
    · exact .refl tree
    · exact .refl tree

theorem createWithin_onlyPrepares (bound : Nat) (tree : FileTree)
    (path : Path) : OnlyPrepares tree (createWithin bound tree path).1 := by
  induction bound generalizing tree path with
  | zero => exact .refl tree
  | succ bound inductionHypothesis =>
      rw [createWithin]
      split
      · exact .refl tree
      · split
        · next creation => exact createDirectory_onlyPrepares creation
        · split
          · exact .refl tree
          · next outer _ =>
              have around := inductionHypothesis tree outer
              generalize createWithin bound tree outer = reached at around ⊢
              obtain ⟨between, error | success⟩ := reached
              · exact around
              · exact around.trans (ensureDirectory_onlyPrepares between path)
        · split
          · exact .refl tree
          · exact .refl tree

/-- Creating a directory, and those around it, adds directories and nothing
else. -/
theorem createDirectories_onlyPrepares (tree : FileTree) (path : Path) :
    OnlyPrepares tree (tree.createDirectories path).1 :=
  createWithin_onlyPrepares _ tree path

end MeetingLog.Files.FileTree
