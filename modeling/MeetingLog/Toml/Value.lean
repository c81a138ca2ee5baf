import MeetingLog.Toml.Numeral

/-!
# Values

A value is a scalar, a list or a table. Lists may run over several lines and
hold comments; a table inside a line may not. A table that dotted keys have
opened can be extended by further dotted keys, and no key is given twice.
-/

namespace MeetingLog.Toml

/-- A value. A scalar is kept as the text that it is written as. -/
inductive Value where
  | plain (text : String)
  | list (items : List Value)
  /-- A table; an open one came about by dotted keys. -/
  | table (isOpen : Bool) (members : List (String × Value))

/-- The members of a table in the order in which they were given. -/
abbrev Members : Type :=
  List (String × Value)

/-- `hasMember members key` means that there is a member with the key. -/
def hasMember (members : Members) (key : String) : Bool :=
  members.any fun member => member.1 == key

def replaceMember (members : Members) (key : String) (value : Value) :
    Members :=
  members.map fun member =>
    if member.1 = key then (key, value) else member

/-- The members with a value put under a dotted key, unless it is there or
leads through something that is not an open table. -/
def insertMember? : List String → Value → Members → Option Members
  | [], _, _ => none
  | [key], value, members =>
      if hasMember members key then none else some (members ++ [(key, value)])
  | key :: keys, value, members =>
      match members.lookup key with
      | none =>
          (insertMember? keys value []).map fun inner =>
            members ++ [(key, .table true inner)]
      | some (.table true inner) =>
          (insertMember? keys value inner).map fun inner =>
            replaceMember members key (.table true inner)
      | some _ => none

/-- The characters behind the end of a line. A comment may stand in front of
it; the last line needs no end. -/
def endLine? (letters : List Char) : Option (List Char) :=
  let letters :=
    match letters with
    | '#' :: rest => rest.dropWhile fun c => c = '\t' || ' ' ≤ c
    | letters => letters
  match letters with
  | [] => some []
  | '\n' :: rest => some rest
  | _ => none

/-- The characters without the spaces, comments and line ends at the front. The
first argument bounds the number of lines. -/
def skipLines : Nat → List Char → Option (List Char)
  | 0, letters => some letters
  | bound + 1, letters =>
      match skipSpaces letters with
      | '\n' :: rest => skipLines bound rest
      | '#' :: rest => (endLine? ('#' :: rest)).bind (skipLines bound)
      | rest => some rest

/-- The characters without spaces, comments and line ends at the front. -/
def skipLayout (letters : List Char) : Option (List Char) :=
  skipLines (letters.length + 1) letters

/-- The items of a list whose opening bracket has been read. The first argument
bounds their number. -/
def readItems? (readItem : List Char → Option (Value × List Char)) :
    Nat → List Char → Option (List Value × List Char)
  | 0, _ => none
  | bound + 1, letters => do
      match ← skipLayout letters with
      | ']' :: rest => return ([], rest)
      | letters =>
          let (item, rest) ← readItem letters
          match ← skipLayout rest with
          | ',' :: rest =>
              let (items, rest) ← readItems? readItem bound rest
              return (item :: items, rest)
          | ']' :: rest => return ([item], rest)
          | _ => none

/-- A dotted key, an equals sign and a value. -/
def readMember? (readItem : List Char → Option (Value × List Char))
    (letters : List Char) :
    Option ((List String × Value) × List Char) := do
  let (keys, rest) ← readDottedKey? letters
  match rest with
  | '=' :: rest =>
      let (value, rest) ← readItem (skipSpaces rest)
      return ((keys, value), rest)
  | _ => none

/-- The members of a table inside a line, of which some have been read. The
first argument bounds the number of the others. -/
def readMembers? (readItem : List Char → Option (Value × List Char)) :
    Nat → Members → List Char → Option (Members × List Char)
  | 0, _, _ => none
  | bound + 1, members, letters => do
      let ((keys, value), rest) ← readMember? readItem letters
      let members ← insertMember? keys value members
      match skipSpaces rest with
      | '}' :: rest => return (members, rest)
      | ',' :: rest => readMembers? readItem bound members (skipSpaces rest)
      | _ => none

def readBare? (letters : List Char) : Option (Value × List Char) := do
  let (word, rest) ← readWord? letters
  if word = ['t', 'r', 'u', 'e'] then return (.plain "true", rest)
  else if word = ['f', 'a', 'l', 's', 'e'] then
    return (.plain "false", rest)
  else
    let begins :=
      word = ['i', 'n', 'f'] || word = ['n', 'a', 'n'] ||
        word.head?.any fun c => c = '-' || (Text.digitValue? c).isSome
    if begins then
      let (text, rest) ← readNumberOrMoment? word rest
      return (.plain text, rest)
    else none

/-- A value at the front of a list. The first argument bounds how deep lists
and tables are nested. -/
def readValue? : Nat → List Char → Option (Value × List Char)
  | 0, _ => none
  | _ + 1, [] => none
  | depth + 1, c :: rest =>
      if isQuote c then
        (readText? c rest).map fun (text, rest) => (.plain text, rest)
      else if c = '+' then do
        let (word, rest) ← readWord? rest
        let (text, rest) ← readNumber? word rest
        return (.plain text, rest)
      else if c = '[' then
        (readItems? (readValue? depth) (rest.length + 1) rest).map
          fun (items, rest) => (.list items, rest)
      else if c = '\x7b' then
        match skipSpaces rest with
        | '}' :: rest => some (.table false [], rest)
        | rest =>
            (readMembers? (readValue? depth) (rest.length + 1) [] rest).map
              fun (members, rest) => (.table false members, rest)
      else readBare? (c :: rest)

end MeetingLog.Toml
