import MeetingLog.Json.Literal
import MeetingLog.Json.Numeral

/-!
# Writing JSON

A value is written on one line, with or without spaces behind the separators,
or over several lines with two spaces for each level.
-/

namespace MeetingLog.Json

/-- How a value is written on one line. -/
structure LineStyle where
  /-- What stands between two parts. -/
  separator : List Char
  /-- What stands between a name and its value. -/
  colon : List Char
  /-- Whether characters beyond ASCII are named by their units. -/
  asciiOnly : Bool
  deriving DecidableEq, Repr

/-- Without spaces. -/
def compactStyle : LineStyle :=
  ⟨[','], [':'], false⟩

/-- With a space behind every comma and colon, in ASCII only. -/
def recordStyle : LineStyle :=
  ⟨[',', ' '], [':', ' '], true⟩

/-- A word for a truth value. -/
def writeBoolean (value : Bool) : List Char :=
  if value then ['t', 'r', 'u', 'e'] else ['f', 'a', 'l', 's', 'e']

mutual

def writeValue (style : LineStyle) : Value → List Char
  | .null => ['n', 'u', 'l', 'l']
  | .boolean value => writeBoolean value
  | .number value => writeNumeral value
  | .text value => writeLiteral style.asciiOnly value
  | .list items => '[' :: writeItems style items ++ [']']
  | .object members => '{' :: writeMembers style members ++ ['}']

def writeItems (style : LineStyle) : List Value → List Char
  | [] => []
  | [item] => writeValue style item
  | item :: items =>
      writeValue style item ++ style.separator ++ writeItems style items

def writeMembers (style : LineStyle) : List (String × Value) → List Char
  | [] => []
  | [(name, value)] =>
      writeLiteral style.asciiOnly name ++ style.colon ++
        writeValue style value
  | (name, value) :: members =>
      writeLiteral style.asciiOnly name ++ style.colon ++
        writeValue style value ++ style.separator ++
          writeMembers style members

end

/-- The line end and the spaces in front of a part at some level. -/
def lineStart (level : Nat) : List Char :=
  '\n' :: List.replicate (2 * level) ' '

mutual

/-- A value written over several lines, its parts at the given level. -/
def writeIndented (level : Nat) : Value → List Char
  | .null => ['n', 'u', 'l', 'l']
  | .boolean value => writeBoolean value
  | .number value => writeNumeral value
  | .text value => writeLiteral false value
  | .list [] => ['[', ']']
  | .list (item :: items) =>
      '[' :: writeIndentedItems level (item :: items) ++
        lineStart (level - 1) ++ [']']
  | .object [] => ['{', '}']
  | .object (member :: members) =>
      '{' :: writeIndentedMembers level (member :: members) ++
        lineStart (level - 1) ++ ['}']

def writeIndentedItems (level : Nat) : List Value → List Char
  | [] => []
  | [item] => lineStart level ++ writeIndented (level + 1) item
  | item :: items =>
      lineStart level ++ writeIndented (level + 1) item ++
        ',' :: writeIndentedItems level items

def writeIndentedMembers (level : Nat) : List (String × Value) → List Char
  | [] => []
  | [(name, value)] =>
      lineStart level ++ writeLiteral false name ++ [':', ' '] ++
        writeIndented (level + 1) value
  | (name, value) :: members =>
      lineStart level ++ writeLiteral false name ++ [':', ' '] ++
        writeIndented (level + 1) value ++
          ',' :: writeIndentedMembers level members

end

/-- A value written without spaces. -/
def Value.compact (value : Value) : String :=
  String.ofList (writeValue compactStyle value)

/-- A value written over several lines. -/
def Value.indented (value : Value) : String :=
  String.ofList (writeIndented 1 value)

end MeetingLog.Json
