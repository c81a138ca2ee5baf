import MeetingLog.Json.Value
import MeetingLog.Table
import MeetingLog.Text.Digits

/-!
# Settings

A setting is what is known of a key. A key is given by a path: its first name
is the key itself, and further steps lead into a value that has parts. Only
settings without parts are ever used, so of the others nothing is kept but that
they have parts.
-/

namespace MeetingLog.Configuration

open MeetingLog.Text

/-- A step into a value that has parts. -/
inductive KeyStep where
  | member (name : String)
  | item (index : Int)
  deriving DecidableEq, Repr

/-- A key and the steps behind it. -/
structure KeyPath where
  key : String
  steps : List KeyStep
  deriving DecidableEq, Repr

/-- `isNameLetter c` means that `c` may stand in a name of a path. -/
def isNameLetter (c : Char) : Bool :=
  c.isAlphanum || c = ' ' || c = '_' || c = '-'

def readName? (letters : List Char) : Option (String × List Char) :=
  match letters.span isNameLetter with
  | ([], _) => none
  | (name, rest) => some (String.ofList name, rest)

/-- `isIndex number` means that an index may have this value. -/
def isIndex (number : Int) : Bool :=
  -9223372036854775808 ≤ number && number ≤ 9223372036854775807

/-- An index with its closing bracket at the front of a list. Spaces may stand
around the index. -/
def readIndex? (letters : List Char) : Option (Int × List Char) := do
  let letters := Json.skipSpaces letters
  let (isNegative, letters) :=
    match letters with
    | '-' :: rest => (true, rest)
    | letters => (false, letters)
  let (size, rest) ← readNumber? letters.length letters
  let rest ← expectChar? ']' (Json.skipSpaces rest)
  let number : Int := if isNegative then -(size : Int) else (size : Int)
  if isIndex number then return (number, rest) else none

/-- The steps that all of a list writes. The first argument bounds their
number. -/
def readSteps? : Nat → List Char → Option (List KeyStep)
  | _, [] => some []
  | 0, _ :: _ => none
  | bound + 1, '.' :: rest => do
      let (name, rest) ← readName? rest
      let steps ← readSteps? bound rest
      return .member name :: steps
  | bound + 1, '[' :: rest => do
      let (index, rest) ← readIndex? rest
      let steps ← readSteps? bound rest
      return .item index :: steps
  | _ + 1, _ :: _ => none

def KeyPath.read? (text : String) : Option KeyPath := do
  let (key, rest) ← readName? text.toList
  let steps ← readSteps? rest.length rest
  return ⟨key, steps⟩

/-- What is known of a key. -/
inductive Setting where
  | absent
  | plain (text : String)
  /-- A value that has parts. -/
  | composed
  deriving DecidableEq, Repr

/-- What is known of each key. -/
abbrev Settings : Type :=
  Table String Setting

namespace Settings

/-- The settings with a value put under a path. A path that leads into a value
makes it one that has parts. -/
def assign (settings : Settings) (path : KeyPath) (setting : Setting) :
    Settings :=
  settings.insert path.key (if path.steps.isEmpty then setting else .composed)

/-- The settings with a value put under a name: under the path that the name
writes, or under the name itself if it writes none. -/
def assignNamed (settings : Settings) (name : String) (setting : Setting) :
    Settings :=
  match KeyPath.read? name with
  | some path => settings.assign path setting
  | none => settings.insert name setting

/-- The settings with several values put under their names, one after
another. -/
def assignAll (settings : Settings) (given : List (String × Setting)) :
    Settings :=
  given.foldl (fun settings entry => settings.assignNamed entry.1 entry.2)
    settings

end Settings

end MeetingLog.Configuration
