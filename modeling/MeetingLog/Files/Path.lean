import MeetingLog.Text.Utf8

/-!
# Paths

A path is a row of names with slashes between them. Names are made of bytes,
which need not be those of a text. Joining, the directory of a path and the stem
of its last name are read off the bytes alone, without looking at any file.
-/

namespace MeetingLog.Files

open MeetingLog.Text

/-- The bytes of a path, or of a name in one. -/
abbrev Path : Type :=
  List UInt8

abbrev slash : UInt8 :=
  0x2F

abbrev dot : UInt8 :=
  0x2E

/-- What is shown of a path, with a replacement character for whatever is not
well-formed in it. -/
def shown (path : Path) : String :=
  String.ofList (decodeLenient path)

/-- The names in a path, empty ones included. -/
def names : Path → List Path
  | [] => [[]]
  | byte :: rest =>
      if byte = slash then [] :: names rest
      else
        match names rest with
        | [] => [[byte]]
        | name :: others => (byte :: name) :: others

/-- The path of a name in a directory. A path that begins with a slash stands
for itself. -/
def join (directory name : Path) : Path :=
  if name.head? = some slash then name
  else if directory = [] ∨ directory.getLast? = some slash then
    directory ++ name
  else directory ++ slash :: name

/-- The reversed bytes of a path without the slashes, and the dots behind
slashes, at its end. A slash at the very beginning stays. -/
def dropTrailing : Path → Path
  | [] => []
  | byte :: rest =>
      if byte = slash then if rest = [] then [slash] else dropTrailing rest
      else if byte = dot ∧ rest.head? = some slash then dropTrailing rest
      else byte :: rest

/-- A path without slashes and single dots at its end. -/
def withoutTrailing (path : Path) : Path :=
  (dropTrailing path.reverse).reverse

/-- The last name of a path and what stands before it, unless the path has no
last name. -/
def splitLast? (path : Path) : Option (Path × Path) :=
  let reversed := dropTrailing path.reverse
  let name := reversed.takeWhile fun byte => byte ≠ slash
  if name.isEmpty then none
  else some ((reversed.drop name.length).reverse, name.reverse)

/-- The directory that a path names something in. -/
def parent? (path : Path) : Option Path :=
  (splitLast? path).map fun (front, _) => withoutTrailing front

/-- The last name of a path, unless it stands for a directory relative to
another. -/
def lastName? (path : Path) : Option Path :=
  match splitLast? path with
  | none => none
  | some (_, name) =>
      if name = [dot, dot] ∨ name = [dot] then none else some name

/-- A name without its extension, which begins at the last dot; a dot at the
very beginning does not begin one. -/
def stemOf (name : Path) : Path :=
  match name.reverse.dropWhile fun byte => byte ≠ dot with
  | [] => name
  | [_] => name
  | _ :: stem => stem.reverse

def extensionOf? (name : Path) : Option Path :=
  let reversed := name.reverse
  match reversed.dropWhile fun byte => byte ≠ dot with
  | [] => none
  | [_] => none
  | _ :: _ => some (reversed.takeWhile fun byte => byte ≠ dot).reverse

/-- The last name of a path without its extension. -/
def stem? (path : Path) : Option Path :=
  (lastName? path).map stemOf

end MeetingLog.Files
