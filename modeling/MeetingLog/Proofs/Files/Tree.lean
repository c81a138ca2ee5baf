import MeetingLog.Files.Tree
import MeetingLog.Proofs.Table
import MeetingLog.Proofs.Text.Utf8

/-!
# Files in a tree

Writing to a file changes what is found at its place and nowhere else. As no
directory goes away, a path that leads to a place goes on leading there, and the
text of a file is the text of all that was written to it.
-/

namespace MeetingLog.Files.FileTree

open MeetingLog.Calendar
open MeetingLog.Text

variable {tree other : FileTree}

theorem node?_put {place : Path} (notRoot : place ≠ []) (node : Node)
    (elsewhere : Path) :
    (tree.put place node).node? elsewhere =
      if elsewhere = place then some node else tree.node? elsewhere := by
  simp only [node?, put, Table.get?_insert]
  by_cases root : elsewhere = []
  · subst root
    simp [Ne.symm notRoot]
  · simp [root]

/-- `KeepsDirectories tree other` means that whatever is a directory in the
first tree is one in the second. -/
def KeepsDirectories (tree other : FileTree) : Prop :=
  ∀ place, tree.node? place = some .directory →
    other.node? place = some .directory

namespace KeepsDirectories

theorem refl (tree : FileTree) : KeepsDirectories tree tree :=
  fun _ found => found

theorem trans {last : FileTree} (first : KeepsDirectories tree other)
    (second : KeepsDirectories other last) :
    KeepsDirectories tree last :=
  fun place found => second place (first place found)

/-- Directories stay when something is put where there is none. -/
theorem put {place : Path} (notDirectory : tree.node? place ≠ some .directory)
    (node : Node) : KeepsDirectories tree (tree.put place node) := by
  intro elsewhere found
  have notRoot : place ≠ [] := by
    rintro rfl
    exact notDirectory (by simp [node?])
  have different : elsewhere ≠ place := by
    rintro rfl
    exact notDirectory found
  rw [node?_put notRoot, if_neg different]
  exact found

theorem enter (kept : KeepsDirectories tree other)
    {place name next : Path} (entered : tree.enter place name = .ok next) :
    other.enter place name = .ok next := by
  unfold FileTree.enter at entered ⊢
  split at entered
  · cases entered
  · next found =>
      rw [kept place found]
      exact entered
  · cases entered

theorem walk (kept : KeepsDirectories tree other) (steps : List Path) :
    ∀ {place next : Path}, tree.walk place steps = .ok next →
      other.walk place steps = .ok next := by
  induction steps with
  | nil =>
      intro place next walked
      exact walked
  | cons name others inductionHypothesis =>
      intro place next walked
      rw [FileTree.walk] at walked ⊢
      cases entered : tree.enter place name with
      | error error =>
          rw [entered] at walked
          cases walked
      | ok inner =>
          rw [entered] at walked
          rw [kept.enter entered]
          exact inductionHypothesis walked

theorem resolve (kept : KeepsDirectories tree other) {path place : Path}
    (resolved : tree.resolve path = .ok place) :
    other.resolve path = .ok place := by
  unfold FileTree.resolve at resolved ⊢
  split at resolved
  · cases resolved
  · next noZero =>
      rw [if_neg noZero]
      split at resolved
      · cases resolved
      · next notEmpty =>
          rw [if_neg notEmpty]
          exact kept.walk _ resolved

end KeepsDirectories

/-- `ChangesOnly tree other place` means that the second tree is the first one
with something else at the place, where there was no directory. -/
structure ChangesOnly (tree other : FileTree) (place : Path) : Prop where
  kept : KeepsDirectories tree other
  same : ∀ elsewhere, elsewhere ≠ place →
    other.node? elsewhere = tree.node? elsewhere

namespace ChangesOnly

variable {place : Path}

theorem trans {last : FileTree} (first : ChangesOnly tree other place)
    (second : ChangesOnly other last place) :
    ChangesOnly tree last place where
  kept := first.kept.trans second.kept
  same elsewhere different :=
    (second.same elsewhere different).trans (first.same elsewhere different)

theorem put (notDirectory : tree.node? place ≠ some .directory)
    (node : Node) : ChangesOnly tree (tree.put place node) place where
  kept := .put notDirectory node
  same elsewhere different := by
    have notRoot : place ≠ [] := by
      rintro rfl
      exact notDirectory (by simp [node?])
    rw [node?_put notRoot, if_neg different]

end ChangesOnly

/-- `WritesTo tree other path` means that nothing has changed, or only what is
found by the path. -/
def WritesTo (tree other : FileTree) (path : Path) : Prop :=
  other = tree ∨
    ∃ place, tree.resolve path = .ok place ∧ ChangesOnly tree other place

theorem WritesTo.kept {path : Path} (writes : WritesTo tree other path) :
    KeepsDirectories tree other := by
  rcases writes with rfl | ⟨place, _, change⟩
  · exact .refl other
  · exact change.kept

/-- `AreApart first second` means that the two paths never lead to one place. -/
def AreApart (first second : Path) : Prop :=
  ∀ (tree : FileTree) (place other : Path),
    tree.resolve first = .ok place → tree.resolve second = .ok other →
      place ≠ other

theorem AreApart.symm {first second : Path}
    (apart : AreApart first second) : AreApart second first :=
  fun tree place other resolved resolvedToo same =>
    apart tree other place resolvedToo resolved same.symm

/-! ## Creating and writing -/

/-- `HasFile tree place content` means that there is a file with some bytes at a
place. -/
def HasFile (tree : FileTree) (place : Path) (content : List UInt8) : Prop :=
  ∃ modified, tree.node? place = some (.file content modified)

theorem HasFile.notRoot {place : Path} {content : List UInt8}
    (file : tree.HasFile place content) : place ≠ [] := by
  rintro rfl
  obtain ⟨modified, found⟩ := file
  simp [node?] at found

theorem HasFile.notDirectory {place : Path} {content : List UInt8}
    (file : tree.HasFile place content) :
    tree.node? place ≠ some .directory := by
  obtain ⟨modified, found⟩ := file
  rw [found]
  simp

/-- A file stays as it is when something changes elsewhere. -/
theorem HasFile.keep {place changed : Path} {content : List UInt8}
    (file : tree.HasFile place content)
    (change : ChangesOnly tree other changed) (different : place ≠ changed) :
    other.HasFile place content := by
  obtain ⟨modified, found⟩ := file
  exact ⟨modified, (change.same place different).trans found⟩

theorem append_file {place : Path} {content : List UInt8}
    (file : tree.HasFile place content) (bytes : List UInt8) :
    ∃ written, tree.append place bytes = .ok written ∧
      written.HasFile place (content ++ bytes) ∧
      ChangesOnly tree written place := by
  have notDirectory := file.notDirectory
  have notRoot := file.notRoot
  obtain ⟨modified, found⟩ := file
  refine ⟨tree.put place (.file (content ++ bytes) tree.today), ?_, ?_, ?_⟩
  · rw [append, found]
  · exact ⟨tree.today, by rw [node?_put notRoot, if_pos rfl]⟩
  · exact .put notDirectory _

/-- What a tree is like after a file was created. Unless it is a device that is
always full it is empty. -/
theorem createFile_ok {path place : Path} {created : FileTree}
    (creation : tree.createFile path = .ok (created, place)) :
    tree.resolve path = .ok place ∧
      (created = tree ∧ tree.node? place = some .fullDevice ∨
        created.HasFile place [] ∧ ChangesOnly tree created place) := by
  unfold createFile at creation
  cases resolved : tree.resolve path with
  | error error =>
      rw [resolved] at creation
      cases creation
  | ok inner =>
      rw [resolved] at creation
      simp only [Except.bind] at creation
      have newFile (notDirectory : tree.node? inner ≠ some .directory) :
          (tree.put inner (.file [] tree.today)).HasFile inner [] ∧
            ChangesOnly tree (tree.put inner (.file [] tree.today))
              inner := by
        have notRoot : inner ≠ [] := by
          rintro rfl
          exact notDirectory (by simp [node?])
        exact
          ⟨⟨tree.today, by rw [node?_put notRoot, if_pos rfl]⟩,
            .put notDirectory _⟩
      split at creation
      · cases creation
      · next full =>
          obtain ⟨rfl, rfl⟩ := Prod.mk.inj (Except.ok.inj creation)
          exact ⟨rfl, .inl ⟨rfl, full⟩⟩
      · next notDirectory notFull =>
          obtain ⟨rfl, rfl⟩ := Prod.mk.inj (Except.ok.inj creation)
          exact ⟨rfl, .inr (newFile notDirectory)⟩

theorem createFile_append_ok {path place : Path}
    {created written : FileTree} {bytes : List UInt8} (notEmpty : bytes ≠ [])
    (creation : tree.createFile path = .ok (created, place))
    (writing : created.append place bytes = .ok written) :
    tree.resolve path = .ok place ∧ written.HasFile place bytes ∧
      ChangesOnly tree written place := by
  obtain ⟨resolved, ⟨rfl, full⟩ | ⟨empty, change⟩⟩ := createFile_ok creation
  · rw [append, full] at writing
    simp [notEmpty] at writing
  · obtain ⟨reached, appended, file, changeToo⟩ := append_file empty bytes
    obtain rfl := Except.ok.inj (writing.symm.trans appended)
    exact ⟨resolved, file, change.trans changeToo⟩

/-- An attempt to write a whole file changes nothing at all, or the file and
nothing else. -/
theorem writeText_cases (tree : FileTree) (path : Path) (text : String) :
    (tree.writeText path text).1 = tree ∨
      ∃ place, tree.resolve path = .ok place ∧
        ChangesOnly tree (tree.writeText path text).1 place ∧
        (tree.writeText path text).1.HasFile place (bytesOf text) := by
  unfold writeText
  cases creation : tree.createFile path with
  | error error => exact .inl rfl
  | ok reached =>
      obtain ⟨created, place⟩ := reached
      obtain ⟨resolved, ⟨rfl, full⟩ | ⟨empty, change⟩⟩ :=
        createFile_ok creation
      · left
        simp only
        split
        · rfl
        · next written appended =>
            rw [append, full] at appended
            simp only at appended
            split at appended
            · exact (Except.ok.inj appended).symm
            · cases appended
      · right
        obtain ⟨written, appended, file, changeToo⟩ :=
          append_file empty (bytesOf text)
        simp only [appended]
        exact ⟨place, resolved, change.trans changeToo, file⟩

theorem writeText_writesTo (tree : FileTree) (path : Path) (text : String) :
    WritesTo tree (tree.writeText path text).1 path := by
  rcases writeText_cases tree path text with
    same | ⟨place, resolved, change, -⟩
  · exact .inl same
  · exact .inr ⟨place, resolved, change⟩

/-- Writing a file makes no directory. -/
theorem writeText_keepsBack (tree : FileTree) (path : Path) (text : String) :
    KeepsDirectories (tree.writeText path text).1 tree := by
  rcases writeText_cases tree path text with
    same | ⟨place, -, change, file⟩
  · rw [same]
    exact .refl tree
  · intro elsewhere found
    have different : elsewhere ≠ place := by
      rintro rfl
      exact file.notDirectory found
    rw [← change.same elsewhere different]
    exact found

/-! ## Reading -/

/-- The bytes of a file are read by any path that leads to the file. -/
theorem readBytes_eq {path place : Path} {content : List UInt8}
    (resolved : tree.resolve path = .ok place)
    (file : tree.HasFile place content) :
    tree.readBytes path = .ok content := by
  obtain ⟨modified, found⟩ := file
  rw [readBytes, find, resolved]
  simp only [Except.bind, found]

/-- A file that holds the bytes of a text is read as the text. -/
theorem readText_of_readBytes {path : Path} {text : String}
    (bytes : tree.readBytes path = .ok (bytesOf text)) :
    tree.readText path = .ok text := by
  rw [readText, bytes]
  simp only [Except.bind]
  rw [decode?_bytesOf]
  exact congrArg Except.ok String.ofList_toList

/-- The text of a file is read back by any path that leads to the file. -/
theorem readText_eq {path place : Path} {text : String}
    (resolved : tree.resolve path = .ok place)
    (file : tree.HasFile place (bytesOf text)) :
    tree.readText path = .ok text :=
  readText_of_readBytes (readBytes_eq resolved file)

/-- What can be read is there, and is not a directory. -/
theorem exists_place_of_readBytes {path : Path} {content : List UInt8}
    (read : tree.readBytes path = .ok content) :
    ∃ place, tree.resolve path = .ok place ∧ tree.node? place ≠ none ∧
      tree.node? place ≠ some .directory := by
  unfold readBytes find at read
  cases resolved : tree.resolve path with
  | error error =>
      rw [resolved] at read
      cases read
  | ok place =>
      rw [resolved] at read
      simp only [Except.bind] at read
      refine ⟨place, rfl, ?_, ?_⟩
      · intro nothing
        rw [nothing] at read
        cases read
      · intro directory
        rw [directory] at read
        cases read

theorem exists_place_of_readText {path : Path} {text : String}
    (read : tree.readText path = .ok text) :
    ∃ place, tree.resolve path = .ok place ∧ tree.node? place ≠ none ∧
      tree.node? place ≠ some .directory := by
  unfold readText at read
  cases content : tree.readBytes path with
  | error error =>
      rw [content] at read
      cases read
  | ok bytes => exact exists_place_of_readBytes content

/-- A text that was written with success is the whole content of its file. A
device that is always full takes the empty text and shows it. -/
theorem readBytes_writeText {written : FileTree} {path : Path} {text : String}
    (success : tree.writeText path text = (written, .ok ())) :
    written.readBytes path = .ok (bytesOf text) := by
  unfold writeText at success
  cases creation : tree.createFile path with
  | error error =>
      rw [creation] at success
      cases success
  | ok reached =>
      obtain ⟨created, place⟩ := reached
      rw [creation] at success
      obtain ⟨resolved, ⟨rfl, full⟩ | ⟨empty, change⟩⟩ :=
        createFile_ok creation
      · simp only [append, full] at success
        split at success
        · cases success
        · next after appended =>
            split at appended
            · next nothing =>
                obtain rfl := Except.ok.inj appended
                obtain rfl := (Prod.mk.inj success).1
                rw [readBytes, find, resolved, List.isEmpty_iff.1 nothing]
                simp only [Except.bind, full]
            · cases appended
      · obtain ⟨reached, appended, file, changeToo⟩ :=
          append_file empty (bytesOf text)
        simp only [appended] at success
        obtain rfl := (Prod.mk.inj success).1
        exact readBytes_eq
          ((change.trans changeToo).kept.resolve resolved) file

end MeetingLog.Files.FileTree
