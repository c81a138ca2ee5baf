import MeetingLog.Files.Links
import MeetingLog.Proofs.Files.Tree

/-!
# Writing to files with several names

After every write all names of one file lead to the same content. What is
written to a file that has no other name is written as if there were no links.
-/

namespace MeetingLog.Files

open MeetingLog.Text
open FileTree

variable {links : Links} {tree other : FileTree} {path place : Path}

/-! ## Names of one file -/

/-- `links.Fits tree` means that the names of files with several names are those
of files in the tree, and that the names of one file lead to the same. -/
structure Links.Fits (links : Links) (tree : FileTree) : Prop where
  areFiles : ∀ place, links.number place ≠ none →
    ∃ content, tree.HasFile place content
  agree : ∀ place name, links.number place ≠ none →
    links.number name = links.number place →
      tree.node? name = tree.node? place

/-- A text that is written to a file is its whole content afterwards. -/
theorem FileTree.HasFile.writeText {content : List UInt8}
    (file : tree.HasFile place content)
    (resolved : tree.resolve path = .ok place) (text : String) :
    (tree.writeText path text).1.HasFile place (bytesOf text) := by
  have notRoot := file.notRoot
  obtain ⟨modified, found⟩ := file
  have creation : tree.createFile path =
      .ok (tree.put place (.file [] tree.today), place) := by
    rw [createFile, resolved]
    simp only [Except.bind, found]
  have empty : (tree.put place (.file [] tree.today)).HasFile place [] :=
    ⟨tree.today, by rw [node?_put notRoot, if_pos rfl]⟩
  obtain ⟨written, appended, fileToo, -⟩ :=
    append_file empty (bytesOf text)
  rw [FileTree.writeText, creation]
  simp only [appended]
  exact fileToo

namespace Links

theorem share_of_none (unnumbered : links.number place = none)
    (tree : FileTree) : links.share tree place = tree := by
  rw [share, unnumbered]

theorem node?_share {number : Nat} {node : Node}
    (numbered : links.number place = some number)
    (found : tree.node? place = some node) (elsewhere : Path) :
    (links.share tree place).node? elsewhere =
      if elsewhere = [] then some .directory
      else (tree.node? elsewhere).map fun old =>
        if links.number elsewhere = some number then node else old := by
  rw [share, numbered, found]
  simp only [FileTree.node?, Table.get?_map]
  by_cases root : elsewhere = []
  · rw [if_pos root, if_pos root]
  · simp only [if_neg root]

namespace Fits

/-- Links fit a tree in which all files with several names are the same. -/
theorem congr (fits : links.Fits tree)
    (same : ∀ place, links.number place ≠ none →
      other.node? place = tree.node? place) : links.Fits other where
  areFiles place numbered := by
    obtain ⟨content, modified, found⟩ := fits.areFiles place numbered
    exact ⟨content, modified, (same place numbered).trans found⟩
  agree place name numbered sameNumber := by
    rw [same place numbered, same name (sameNumber ▸ numbered)]
    exact fits.agree place name numbered sameNumber

/-- After the file at a place has changed it is found by all its names. -/
theorem share (fits : links.Fits tree) {content : List UInt8}
    (numbered : links.number place ≠ none)
    (change : ChangesOnly tree other place)
    (file : other.HasFile place content) :
    links.Fits (links.share other place) := by
  obtain ⟨number, number_eq⟩ := Option.ne_none_iff_exists'.1 numbered
  obtain ⟨modified, found⟩ := file
  have shared (name : Path) (named : links.number name ≠ none) :
      (links.share other place).node? name =
        if links.number name = some number then
          some (.file content modified)
        else tree.node? name := by
    obtain ⟨before, date, foundBefore⟩ := fits.areFiles name named
    have notRoot : name ≠ [] := HasFile.notRoot ⟨date, foundBefore⟩
    rw [node?_share number_eq found, if_neg notRoot]
    by_cases same : name = place
    · rw [same, found, number_eq, if_pos rfl, Option.map_some, if_pos rfl]
    · rw [change.same name same, foundBefore, Option.map_some]
      split <;> rfl
  constructor
  · intro name named
    by_cases same : links.number name = some number
    · refine ⟨content, modified, ?_⟩
      rw [shared name named, if_pos same]
    · obtain ⟨before, date, foundBefore⟩ := fits.areFiles name named
      refine ⟨before, date, ?_⟩
      rw [shared name named, if_neg same, foundBefore]
  · intro name nameToo named sameNumber
    rw [shared name named, shared nameToo (sameNumber ▸ named), sameNumber,
      fits.agree name nameToo named sameNumber]

end Fits

/-- The names of a file lead to the same after every write. -/
theorem Fits.writeText (fits : links.Fits tree) (path : Path)
    (text : String) : links.Fits (links.writeText tree path text).1 := by
  have writes := writeText_writesTo tree path text
  rw [Links.writeText]
  cases resolved : tree.resolve path with
  | error error =>
      rcases writes with same | ⟨place, resolvedToo, -⟩
      · show links.Fits (tree.writeText path text).1
        rw [same]
        exact fits
      · rw [resolved] at resolvedToo
        cases resolvedToo
  | ok place =>
      show links.Fits (links.share (tree.writeText path text).1 place)
      have change : ChangesOnly tree (tree.writeText path text).1 place := by
        rcases writes with same | ⟨changed, resolvedToo, change⟩
        · rw [same]
          exact ⟨.refl tree, fun _ _ => rfl⟩
        · rw [resolved] at resolvedToo
          obtain rfl := Except.ok.inj resolvedToo
          exact change
      by_cases numbered : links.number place = none
      · rw [share_of_none numbered]
        refine fits.congr fun name named => change.same name ?_
        rintro rfl
        exact named numbered
      · obtain ⟨content, file⟩ := fits.areFiles place numbered
        exact fits.share numbered change (file.writeText resolved text)

/-! ## Files with one name -/

/-- `links.IsSole tree path` means that what the path leads to has no other
name. -/
def IsSole (links : Links) (tree : FileTree) (path : Path) : Prop :=
  ∀ place, tree.resolve path = .ok place → links.number place = none

instance (links : Links) (tree : FileTree) (path : Path) :
    Decidable (links.IsSole tree path) :=
  match resolved : tree.resolve path with
  | .error _ => isTrue fun place resolvedToo => by
      rw [resolved] at resolvedToo
      cases resolvedToo
  | .ok place => decidable_of_iff (links.number place = none)
      ⟨fun sole _ resolvedToo => by
        rw [resolved] at resolvedToo
        rw [← Except.ok.inj resolvedToo]
        exact sole, fun sole => sole place resolved⟩

theorem writeText_of_isSole (sole : links.IsSole tree path)
    (text : String) : links.writeText tree path text =
      tree.writeText path text := by
  rw [writeText]
  cases resolved : tree.resolve path with
  | error error => rfl
  | ok place => simp only [share_of_none (sole place resolved)]

/-- A path leads to the same later if no directory has been added. -/
theorem IsSole.keep (sole : links.IsSole tree path)
    (kept : KeepsDirectories other tree) : links.IsSole other path :=
  fun place resolved => sole place (kept.resolve resolved)

end Links

end MeetingLog.Files
