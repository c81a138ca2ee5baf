import MeetingLog.Files.Tree

/-!
# Files with several names

In a file tree every place has a content of its own. Hard links make several
places the names of one file: what is written to the file by one of its names is
found at all of them.
-/

namespace MeetingLog.Files

/-- Which places are names of one file, namely those with the same number. A
place without a number is the only name of what is there. -/
structure Links where
  number : Path → Option Nat

namespace Links

/-- The tree with the file at a place found by all its names. -/
def share (links : Links) (tree : FileTree) (place : Path) : FileTree :=
  match links.number place, tree.node? place with
  | some number, some node =>
      { tree with
        nodes := tree.nodes.map fun name other =>
          if links.number name = some number then node else other }
  | _, _ => tree

/-- The tree after an attempt to write a text as the whole content of a file,
by any of its names. -/
def writeText (links : Links) : TextWriter := fun tree path text =>
  let (written, outcome) := tree.writeText path text
  match tree.resolve path with
  | .error _ => (written, outcome)
  | .ok place => (links.share written place, outcome)

end Links

end MeetingLog.Files
