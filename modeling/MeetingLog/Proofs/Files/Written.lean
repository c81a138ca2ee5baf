import MeetingLog.Proofs.Files.Way

/-!
# Files written one after the other

Texts are written to several paths in turn. What changes is found by one of the
paths, and if no two of them lead to one place every file holds its own text at
the end.
-/

namespace MeetingLog.Files.FileTree

open MeetingLog.Text

variable {tree other last : FileTree}

/-! ## What stays -/

/-- `ChangesWithin tree other directory paths` means that the second tree is
the first one with directories on the way of a path where there was nothing,
and with something else where some paths lead to. -/
structure ChangesWithin (tree other : FileTree) (directory : Path)
    (paths : List Path) : Prop where
  kept : KeepsDirectories tree other
  changed : ∀ place, other.node? place ≠ tree.node? place →
    (tree.node? place = none ∧ other.node? place = some .directory ∧
        other.IsOnWay directory place) ∨
      ∃ path ∈ paths, other.resolve path = .ok place

namespace ChangesWithin

variable {directory : Path} {paths : List Path}

theorem refl (tree : FileTree) (directory : Path) (paths : List Path) :
    ChangesWithin tree tree directory paths where
  kept := .refl tree
  changed _ different := absurd rfl different

theorem trans (first : ChangesWithin tree other directory paths)
    (second : ChangesWithin other last directory paths) :
    ChangesWithin tree last directory paths where
  kept := first.kept.trans second.kept
  changed place different := by
    by_cases same : other.node? place = tree.node? place
    · rw [← same] at different ⊢
      exact second.changed place different
    · rcases first.changed place same with
        ⟨nothing, found, onWay⟩ | ⟨path, among, resolved⟩
      · exact .inl ⟨nothing, second.kept place found,
          onWay.keep second.kept⟩
      · exact .inr ⟨path, among, second.kept.resolve resolved⟩

end ChangesWithin

theorem PreparesWay.changesWithin {directory : Path}
    (prepared : PreparesWay tree other directory) (paths : List Path) :
    ChangesWithin tree other directory paths where
  kept := prepared.prepares.kept
  changed place different := by
    rcases prepared.prepares place with same | ⟨nothing, found⟩
    · exact absurd same different
    · exact .inl ⟨nothing, found, prepared.onWay place different⟩

theorem WritesTo.changesWithin {path : Path} {paths : List Path}
    (writes : WritesTo tree other path) (among : path ∈ paths)
    (directory : Path) : ChangesWithin tree other directory paths where
  kept := writes.kept
  changed place different := by
    right
    refine ⟨path, among, ?_⟩
    have kept := writes.kept
    rcases writes with rfl | ⟨changed, resolved, change⟩
    · exact absurd rfl different
    · by_cases same : place = changed
      · rw [same]
        exact kept.resolve resolved
      · exact absurd (change.same place same) different

/-- What is found by one path stays when a path apart is written to. -/
theorem WritesTo.find {path pathToo place : Path}
    (writes : WritesTo tree other pathToo) (apart : AreApart path pathToo)
    (resolved : tree.resolve path = .ok place) :
    other.find path = tree.find path := by
  rw [FileTree.find, FileTree.find, writes.kept.resolve resolved, resolved]
  rcases writes with rfl | ⟨changed, resolvedToo, change⟩
  · rfl
  · simp only [Except.bind]
    rw [change.same place (apart tree _ _ resolved resolvedToo)]

theorem WritesTo.readBytes {path pathToo : Path} {content : List UInt8}
    (writes : WritesTo tree other pathToo) (apart : AreApart path pathToo)
    (read : tree.readBytes path = .ok content) :
    other.readBytes path = .ok content := by
  cases resolved : tree.resolve path with
  | error error =>
      rw [FileTree.readBytes, FileTree.find, resolved] at read
      cases read
  | ok place =>
      rw [FileTree.readBytes, writes.find apart resolved]
      exact read

/-! ## Writing in turn -/

/-- `Written tree texts other success` means that texts were written to paths
one after the other, up to the first that could not be written, and that this
led from the one tree to the other. Whether all were written is told by
`success`. -/
inductive Written :
    FileTree → List (Path × String) → FileTree → Bool → Prop where
  | nothing (tree : FileTree) : Written tree [] tree true
  | next {tree between other : FileTree} {path : Path} {text : String}
      {texts : List (Path × String)} {success : Bool}
      (first : tree.writeText path text = (between, .ok ()))
      (further : Written between texts other success) :
      Written tree ((path, text) :: texts) other success
  | failed {tree other : FileTree} {path : Path} {text : String}
      {texts : List (Path × String)} {error : FileError}
      (failure : tree.writeText path text = (other, .error error)) :
      Written tree ((path, text) :: texts) other false

namespace Written

variable {texts : List (Path × String)} {success : Bool}

theorem writesTo_of_eq {path : Path} {text : String}
    {result : Except FileError Unit}
    (outcome : tree.writeText path text = (other, result)) :
    WritesTo tree other path := by
  have writes := writeText_writesTo tree path text
  rw [outcome] at writes
  exact writes

theorem changesWithin {paths : List Path}
    (written : Written tree texts other success)
    (among : ∀ pair ∈ texts, pair.1 ∈ paths) (directory : Path) :
    ChangesWithin tree other directory paths := by
  induction written with
  | nothing tree => exact .refl tree directory paths
  | next first further inductionHypothesis =>
      exact ((writesTo_of_eq first).changesWithin
        (among _ List.mem_cons_self) directory).trans
          (inductionHypothesis fun pair member =>
            among pair (List.mem_cons_of_mem _ member))
  | failed failure =>
      exact (writesTo_of_eq failure).changesWithin
        (among _ List.mem_cons_self) directory

theorem keep {path : Path} {content : List UInt8}
    (written : Written tree texts other success)
    (apart : ∀ pair ∈ texts, AreApart path pair.1)
    (read : tree.readBytes path = .ok content) :
    other.readBytes path = .ok content := by
  induction written with
  | nothing tree => exact read
  | next first further inductionHypothesis =>
      exact inductionHypothesis
        (fun pair member => apart pair (List.mem_cons_of_mem _ member))
        ((writesTo_of_eq first).readBytes (apart _ List.mem_cons_self) read)
  | failed failure =>
      exact (writesTo_of_eq failure).readBytes
        (apart _ List.mem_cons_self) read

/-- If no two of the paths lead to one place, every text is read back. -/
theorem readBytes (written : Written tree texts other success)
    (all : success = true)
    (apart : texts.Pairwise fun first second => AreApart first.1 second.1) :
    ∀ pair ∈ texts, other.readBytes pair.1 = .ok (bytesOf pair.2) := by
  induction written with
  | nothing tree => exact nofun
  | next first further inductionHypothesis =>
      obtain ⟨fromFirst, others⟩ := List.pairwise_cons.1 apart
      intro pair member
      rcases List.mem_cons.1 member with rfl | later
      · exact further.keep fromFirst (readBytes_writeText first)
      · exact inductionHypothesis all others pair later
  | failed failure => cases all

/-- Everything is written if it all can be. -/
theorem all_of_isWritable (written : Written tree texts other success)
    (writable : ∀ pair ∈ texts, tree.IsWritable pair.1) :
    success = true := by
  induction written with
  | nothing tree => rfl
  | @next tree between other path text texts success first further
      inductionHypothesis =>
      refine inductionHypothesis fun pair member => ?_
      have kept := (writable pair (List.mem_cons_of_mem _ member)).keep
        path text
      rw [first] at kept
      exact kept
  | @failed tree other path text texts error failure =>
      have done := (writable _ List.mem_cons_self).writeText text
      rw [failure] at done
      cases done

end Written

end MeetingLog.Files.FileTree
