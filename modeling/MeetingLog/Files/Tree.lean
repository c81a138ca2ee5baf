import MeetingLog.Calendar.Date
import MeetingLog.Files.Path
import MeetingLog.Table
import MeetingLog.Text.Utf8

/-!
# File trees

A file tree holds directories, files and devices that are always full. A path
is resolved name by name, each of which has to be looked up in a directory that
exists; the errors are those of the operation that meets them first. There are
no symbolic links and no permissions, and no file has a second name: hard links
are put on top of a tree in `MeetingLog.Files.Links`.
-/

namespace MeetingLog.Files

open MeetingLog.Calendar
open MeetingLog.Text

/-- Why an operation on files failed. -/
inductive FileError where
  | notFound
  | alreadyExists
  | notDirectory
  | isDirectory
  | noSpace
  | nameTooLong
  /-- A path holds the byte zero. -/
  | zeroInPath
  /-- A file that should be text is not well-formed. -/
  | notText
  /-- There is nothing left of a path to create. -/
  | nothingToCreate
  deriving DecidableEq, Repr

namespace FileError

def message : FileError → String
  | notFound => "No such file or directory (os error 2)"
  | alreadyExists => "File exists (os error 17)"
  | notDirectory => "Not a directory (os error 20)"
  | isDirectory => "Is a directory (os error 21)"
  | noSpace => "No space left on device (os error 28)"
  | nameTooLong => "File name too long (os error 36)"
  | zeroInPath => "file name contained an unexpected NUL byte"
  | notText => "stream did not contain valid UTF-8"
  | nothingToCreate => "failed to create whole tree"

end FileError

/-- What may be found at a place in a file tree. -/
inductive Node where
  | directory
  | file (content : List UInt8) (modified : Date)
  /-- A device that takes no bytes. -/
  | fullDevice
  deriving DecidableEq, Repr

/-- Directories, files and devices by their places. A place is written as the
names that lead to it from the root, with slashes between them; the root itself
is the empty path. Files written get the date `today`. -/
structure FileTree where
  nodes : Table Path Node
  today : Date

namespace FileTree

def empty (today : Date) : FileTree :=
  ⟨Table.empty, today⟩

def node? (tree : FileTree) (place : Path) : Option Node :=
  if place = [] then some .directory else tree.nodes.get? place

def outerPlace (place : Path) : Path :=
  ((place.reverse.dropWhile fun byte => byte ≠ slash).drop 1).reverse

/-- The longest name of a node, in bytes. -/
def nameLimit : Nat :=
  255

/-- The place that a name leads to from a place, which has to be a
directory. -/
def enter (tree : FileTree) (place name : Path) : Except FileError Path :=
  match tree.node? place with
  | none => .error .notFound
  | some .directory =>
      if name = [] ∨ name = [dot] then .ok place
      else if name = [dot, dot] then .ok (outerPlace place)
      else if nameLimit < name.length then .error .nameTooLong
      else if place = [] then .ok name
      else .ok (place ++ slash :: name)
  | some _ => .error .notDirectory

def walk (tree : FileTree) : Path → List Path → Except FileError Path
  | place, [] => .ok place
  | place, name :: others =>
      (tree.enter place name).bind fun next => tree.walk next others

/-- The place that a path leads to; nothing needs to be there yet. -/
def resolve (tree : FileTree) (path : Path) : Except FileError Path :=
  if path.contains 0 then .error .zeroInPath
  else if path = [] then .error .notFound
  else tree.walk [] (names path)

def find (tree : FileTree) (path : Path) : Except FileError Node :=
  (tree.resolve path).bind fun place =>
    match tree.node? place with
    | none => .error .notFound
    | some node => .ok node

/-- `isDirectory tree path` means that the path leads to a directory. -/
def isDirectory (tree : FileTree) (path : Path) : Bool :=
  match tree.find path with
  | .ok .directory => true
  | _ => false

/-- `isFile tree path` means that the path leads to a file. -/
def isFile (tree : FileTree) (path : Path) : Bool :=
  match tree.find path with
  | .ok (.file _ _) => true
  | _ => false

def put (tree : FileTree) (place : Path) (node : Node) : FileTree :=
  { tree with nodes := tree.nodes.insert place node }

def readBytes (tree : FileTree) (path : Path) :
    Except FileError (List UInt8) :=
  match tree.find path with
  | .error error => .error error
  | .ok .directory => .error .isDirectory
  | .ok .fullDevice => .ok []
  | .ok (.file content _) => .ok content

def readText (tree : FileTree) (path : Path) : Except FileError String :=
  (tree.readBytes path).bind fun bytes =>
    match decode? bytes with
    | none => .error .notText
    | some letters => .ok (String.ofList letters)

def modifiedOn (tree : FileTree) (path : Path) : Except FileError Date :=
  match tree.find path with
  | .error error => .error error
  | .ok (.file _ modified) => .ok modified
  | .ok _ => .ok tree.today

def withoutSlashes (path : Path) : Path :=
  match (path.reverse.dropWhile fun byte => byte = slash).reverse with
  | [] => path
  | bytes => bytes

def createDirectory (tree : FileTree) (path : Path) :
    Except FileError FileTree :=
  (tree.resolve (withoutSlashes path)).bind fun place =>
    match tree.node? place with
    | some _ => .error .alreadyExists
    | none => .ok (tree.put place .directory)

/-- The tree after an attempt to create a directory that may be there
already. -/
def ensureDirectory (tree : FileTree) (path : Path) :
    FileTree × Except FileError Unit :=
  match tree.createDirectory path with
  | .ok created => (created, .ok ())
  | .error error =>
      if tree.isDirectory path then (tree, .ok ()) else (tree, .error error)

/-- The tree after an attempt to create a directory and those around it. The
first argument bounds how many there are. -/
def createWithin : Nat → FileTree → Path → FileTree × Except FileError Unit
  | 0, tree, _ => (tree, .error .nothingToCreate)
  | bound + 1, tree, path =>
      if path = [] then (tree, .ok ())
      else
        match tree.createDirectory path with
        | .ok created => (created, .ok ())
        | .error .notFound =>
            match parent? path with
            | none => (tree, .error .nothingToCreate)
            | some outer =>
                match createWithin bound tree outer with
                | (tree, .error error) => (tree, .error error)
                | (tree, .ok ()) => tree.ensureDirectory path
        | .error error =>
            if tree.isDirectory path then (tree, .ok ())
            else (tree, .error error)

/-- The tree after an attempt to create a directory and those around it. -/
def createDirectories (tree : FileTree) (path : Path) :
    FileTree × Except FileError Unit :=
  createWithin (path.length + 1) tree path

/-- The tree with an empty file at a path, and the place of the file. What was
in the file before is gone. -/
def createFile (tree : FileTree) (path : Path) :
    Except FileError (FileTree × Path) :=
  (tree.resolve path).bind fun place =>
    match tree.node? place with
    | some .directory => .error .isDirectory
    | some .fullDevice => .ok (tree, place)
    | _ => .ok (tree.put place (.file [] tree.today), place)

def append (tree : FileTree) (place : Path) (bytes : List UInt8) :
    Except FileError FileTree :=
  match tree.node? place with
  | some (.file content _) =>
      .ok (tree.put place (.file (content ++ bytes) tree.today))
  | some .fullDevice =>
      if bytes.isEmpty then .ok tree else .error .noSpace
  | some .directory => .error .isDirectory
  | none => .error .notFound

/-- The tree after an attempt to write a text as the whole content of a
file. -/
def writeText (tree : FileTree) (path : Path) (text : String) :
    FileTree × Except FileError Unit :=
  match tree.createFile path with
  | .error error => (tree, .error error)
  | .ok (created, place) =>
      match created.append place (bytesOf text) with
      | .error error => (created, .error error)
      | .ok written => (written, .ok ())

/-- The tree with a node put at a path, and directories put around it where
they are missing. -/
def install (tree : FileTree) (path : Path) (node : Node) : FileTree :=
  let tree := (tree.createDirectories ((parent? path).getD [])).1
  match tree.resolve path with
  | .error _ => tree
  | .ok place => tree.put place node

def removeDirectory (tree : FileTree) (path : Path) : FileTree :=
  match tree.resolve path with
  | .error _ => tree
  | .ok place => { tree with nodes := tree.nodes.erase place }

/-- The nodes below a place, in the order of their places, with what leads to
them from there. -/
def below (tree : FileTree) (place : Path) : List (Path × Node) :=
  let front := if place = [] then [] else place ++ [slash]
  tree.nodes.entries.filterMap fun (name, node) =>
    if front.isPrefixOf name then some (name.drop front.length, node)
    else none

/-- What a listing shows of a node: the text of a file, with replacement
characters where it is not well-formed. -/
def shownText : Node → Option String
  | .file content _ => some (String.ofList (decodeLenient content))
  | _ => none

end FileTree

/-- A way to write a text as the whole content of the file at a path. -/
abbrev TextWriter : Type :=
  FileTree → Path → String → FileTree × Except FileError Unit

end MeetingLog.Files
