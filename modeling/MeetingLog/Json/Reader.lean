import MeetingLog.Json.Literal
import MeetingLog.Json.Numeral
import MeetingLog.Text.Digits

/-!
# Reading JSON

A value is read from the front of a list of characters. Lists and objects are
read by loops that hand each item or member to a step, so that a reader which
looks only for certain members decides about them in the order in which they
come. A value may be nested 127 levels deep.
-/

namespace MeetingLog.Json

open MeetingLog.Text

def expectWord (word letters : List Char) : Except Fault (List Char) :=
  match word, letters with
  | [], letters => .ok letters
  | _ :: _, [] => .error .truncated
  | expected :: word, c :: rest =>
      if c = expected then expectWord word rest else .error .malformed

/-- A value without parts: a word, a numeral or a text. -/
def readScalar (letters : List Char) : Reading Value :=
  match letters with
  | [] => .error .truncated
  | 'n' :: rest =>
      (expectWord ['u', 'l', 'l'] rest).map fun rest => (.null, rest)
  | 't' :: rest =>
      (expectWord ['r', 'u', 'e'] rest).map fun rest => (.boolean true, rest)
  | 'f' :: rest =>
      (expectWord ['a', 'l', 's', 'e'] rest).map fun rest =>
        (.boolean false, rest)
  | '"' :: rest =>
      (readLiteral rest).map fun (text, rest) => (.text text, rest)
  | c :: rest =>
      if c = '-' || (digitValue? c).isSome then
        (readNumeral (c :: rest)).map fun (number, rest) =>
          (.number number, rest)
      else .error .malformed

/-- What stands at a place of a list where an item or its end may come. -/
inductive NextItem where
  | closed (rest : List Char)
  | item (rest : List Char)
  deriving Repr

/-- The next item of a list, or its end. Items after the first follow a
comma. -/
def nextItem (isFirst : Bool) (letters : List Char) :
    Except Fault NextItem :=
  match skipSpaces letters with
  | [] => .error .truncated
  | ']' :: rest => .ok (.closed rest)
  | c :: rest =>
      if isFirst then .ok (.item (c :: rest))
      else if c = ',' then
        match skipSpaces rest with
        | [] => .error .truncated
        | ']' :: _ => .error .malformed
        | rest => .ok (.item rest)
      else .error .malformed

/-- What stands at a place of an object where a member or its end may come. A
member is given by its name and what follows the name. -/
inductive NextMember where
  | closed (rest : List Char)
  | member (name : String) (rest : List Char)
  deriving Repr

/-- A name at a place of an object where one has to come. The reader is given
what follows the opening quote. -/
def readName (readText : List Char → Reading String)
    (letters : List Char) : Except Fault NextMember :=
  match letters with
  | [] => .error .truncated
  | '"' :: rest =>
      (readText rest).map fun (name, rest) => .member name rest
  | _ => .error .malformed

/-- The next member of an object, or its end. Members after the first follow a
comma. -/
def nextMember (readText : List Char → Reading String) (isFirst : Bool)
    (letters : List Char) : Except Fault NextMember :=
  match skipSpaces letters with
  | [] => .error .truncated
  | '}' :: rest => .ok (.closed rest)
  | c :: rest =>
      if isFirst then readName readText (c :: rest)
      else if c = ',' then readName readText (skipSpaces rest)
      else .error .malformed

/-- The characters behind the colon between a name and its value. -/
def readColon (letters : List Char) : Except Fault (List Char) :=
  match skipSpaces letters with
  | [] => .error .truncated
  | ':' :: rest => .ok rest
  | _ => .error .malformed

/-- Runs a step on every item of a list whose opening bracket has been read.
The first argument bounds the number of items. -/
def foldItems {σ : Type} (step : σ → List Char → Reading σ) :
    Nat → Bool → σ → List Char → Except Fault (σ × List Char)
  | 0, _, _, _ => .error .truncated
  | bound + 1, isFirst, state, letters => do
      match ← nextItem isFirst letters with
      | .closed rest => return (state, rest)
      | .item rest =>
          let (state, rest) ← step state rest
          foldItems step bound false state rest

/-- Runs a step on every member of an object whose opening brace has been
read. The step is given the name and what follows it. The first argument bounds
the number of members. -/
def foldMembers {σ : Type} (readText : List Char → Reading String)
    (step : σ → String → List Char → Reading σ) :
    Nat → Bool → σ → List Char → Except Fault (σ × List Char)
  | 0, _, _, _ => .error .truncated
  | bound + 1, isFirst, state, letters => do
      match ← nextMember readText isFirst letters with
      | .closed rest => return (state, rest)
      | .member name rest =>
          let (state, rest) ← step state name rest
          foldMembers readText step bound false state rest

def readItems (readItem : List Char → Reading Value) (letters : List Char) :
    Reading (List Value) :=
  (foldItems
    (fun items rest =>
      (readItem rest).map fun (item, rest) => (item :: items, rest))
    (letters.length + 1) true [] letters).map
      fun (items, rest) => (items.reverse, rest)

/-- The members of an object whose opening brace has been read. -/
def readMembers (readMember : List Char → Reading Value)
    (letters : List Char) : Reading (List (String × Value)) :=
  (foldMembers readLiteral
    (fun members name rest =>
      (readColon rest).bind fun rest =>
        (readMember rest).map fun (value, rest) =>
          ((name, value) :: members, rest))
    (letters.length + 1) true [] letters).map
      fun (members, rest) => (members.reverse, rest)

/-- A value at the front of a list whose parts are nested at most `depth`
levels deep. -/
def readValue : Nat → List Char → Reading Value
  | 0, letters =>
      match skipSpaces letters with
      | '[' :: _ => .error .malformed
      | '{' :: _ => .error .malformed
      | letters => readScalar letters
  | depth + 1, letters =>
      match skipSpaces letters with
      | '[' :: rest =>
          (readItems (readValue depth) rest).map fun (items, rest) =>
            (.list items, rest)
      | '{' :: rest =>
          (readMembers (readValue depth) rest).map fun (members, rest) =>
            (.object members, rest)
      | letters => readScalar letters

/-- How deep the parts of a text may be nested. -/
def depthLimit : Nat :=
  127

/-- A thing read when nothing but spaces follows it. -/
def finish {α : Type} (reading : Reading α) : Except Fault α := do
  let (result, rest) ← reading
  if (skipSpaces rest).isEmpty then return result
  else .error .malformed

/-- The fault of a value that is read where another kind of value is wanted.
Only the start of a list or an object is looked at. -/
def refuse {α : Type} (letters : List Char) : Except Fault α :=
  match skipSpaces letters with
  | '[' :: _ => .error .mismatch
  | '{' :: _ => .error .mismatch
  | letters => do
      let _ ← readScalar letters
      .error .mismatch

def Value.read (text : String) : Except Fault Value :=
  finish (readValue depthLimit text.toList)

end MeetingLog.Json
