import MeetingLog.Json.Literal

/-!
# Texts and keys

A text stands between double quotes, where a backslash begins an escape, or
between single quotes, where every character stands for itself. Between three
quotes it may run over several lines. A key is a bare word or a text on one
line; keys joined by dots lead into a table inside a table.

Everything is read from the front of a list of characters in which each line
ends with a single line feed.
-/

namespace MeetingLog.Toml

/-- `isSpace c` means that `c` may stand between the parts of a line. -/
def isSpace (c : Char) : Bool :=
  c = ' ' || c = '\t'

/-- The characters without the spaces at the front. -/
def skipSpaces (letters : List Char) : List Char :=
  letters.dropWhile isSpace

/-- `isWordLetter c` means that `c` may stand in a bare word. -/
def isWordLetter (c : Char) : Bool :=
  c.isAlphanum || c = '-' || c = '_'

def readWord? (letters : List Char) : Option (List Char × List Char) :=
  match letters.span isWordLetter with
  | ([], _) => none
  | (word, rest) => some (word, rest)

/-- `isTextLetter c` means that `c` may stand for itself in a text. -/
def isTextLetter (c : Char) : Bool :=
  c = '\t' || (' ' ≤ c && c != '\x7f')

def hexNumber? (digits : List Char) : Option Nat :=
  digits.foldlM
    (fun value c => (Json.hexValue? c).map fun digit => value * 16 + digit) 0

/-- The character named by a fixed count of hexadecimal digits. -/
def readCode? (count : Nat) (letters : List Char) :
    Option (Char × List Char) := do
  let digits := letters.take count
  let value ← hexNumber? digits
  if digits.length = count ∧ value.isValidChar then
    return (Char.ofNat value, letters.drop count)
  else none

/-- The characters behind a line that ends with a backslash: the blank ones up
to the next other character are passed over. -/
def joinLines? (letters : List Char) : Option (List Char) :=
  match skipSpaces letters with
  | [] => some []
  | '\n' :: rest => some (rest.dropWhile fun c => isSpace c || c = '\n')
  | _ => none

def readEscape? (isBlock : Bool) (letters : List Char) :
    Option (List Char × List Char) :=
  match letters with
  | [] => none
  | c :: rest =>
      if c = '"' ∨ c = '\\' then some ([c], rest)
      else if c = 'b' then some (['\x08'], rest)
      else if c = 'f' then some (['\x0c'], rest)
      else if c = 'n' then some (['\n'], rest)
      else if c = 'r' then some (['\r'], rest)
      else if c = 't' then some (['\t'], rest)
      else if c = 'u' then
        (readCode? 4 rest).map fun (named, rest) => ([named], rest)
      else if c = 'U' then
        (readCode? 8 rest).map fun (named, rest) => ([named], rest)
      else if isBlock then
        (joinLines? (c :: rest)).map fun rest => ([], rest)
      else none

/-- What a run of quotes stands for in a text that runs over several lines: up
to two quotes are part of the text, three end it, and up to two more belong to
the text in front of its end. -/
def closeBlock? (quote : Char) (letters : List Char) :
    Option (List Char × List Char) :=
  let (quotes, rest) := letters.span fun c => c = quote
  if quotes.length < 3 then none
  else
    let inside := (quotes.drop 3).take 2
    some (inside, quotes.drop (3 + inside.length) ++ rest)

/-- The text up to its closing quote or quotes. The first argument bounds the
number of its parts. -/
def readBody? (quote : Char) (isBlock : Bool) :
    Nat → List Char → Option (List Char × List Char)
  | 0, _ => none
  | _ + 1, [] => none
  | bound + 1, c :: rest =>
      let continueWith (part rest : List Char) :
          Option (List Char × List Char) :=
        (readBody? quote isBlock bound rest).map fun (text, rest) =>
          (part ++ text, rest)
      if c = quote then
        if isBlock then
          match closeBlock? quote (c :: rest) with
          | some closed => some closed
          | none => continueWith [c] rest
        else some ([], rest)
      else if c = '\n' then
        if isBlock then continueWith [c] rest else none
      else if c = '\\' ∧ quote = '"' then
        (readEscape? isBlock rest).bind fun (part, rest) =>
          continueWith part rest
      else if isTextLetter c then continueWith [c] rest
      else none

def readLine? (quote : Char) (letters : List Char) :
    Option (String × List Char) :=
  (readBody? quote false (letters.length + 1) letters).map
    fun (text, rest) => (String.ofList text, rest)

/-- A text that runs over several lines and whose three opening quotes have
been read. A line feed right behind them is not part of it. -/
def readBlock? (quote : Char) (letters : List Char) :
    Option (String × List Char) :=
  let letters :=
    match letters with
    | '\n' :: rest => rest
    | letters => letters
  (readBody? quote true (letters.length + 1) letters).map
    fun (text, rest) => (String.ofList text, rest)

def readText? (quote : Char) (letters : List Char) :
    Option (String × List Char) :=
  match letters with
  | second :: third :: rest =>
      if second = quote ∧ third = quote then readBlock? quote rest
      else readLine? quote (second :: third :: rest)
  | letters => readLine? quote letters

/-- `isQuote c` means that `c` begins a text. -/
def isQuote (c : Char) : Bool :=
  c = '"' || c = '\''

def readKey? (letters : List Char) : Option (String × List Char) :=
  match letters with
  | [] => none
  | c :: rest =>
      if isQuote c then
        if rest.take 2 = [c, c] then none else readLine? c rest
      else
        (readWord? (c :: rest)).map fun (word, rest) =>
          (String.ofList word, rest)

/-- Keys joined by dots, with spaces allowed around each dot. The first
argument bounds their number. -/
def readKeys? : Nat → List Char → Option (List String × List Char)
  | 0, _ => none
  | bound + 1, letters => do
      let (key, rest) ← readKey? letters
      match skipSpaces rest with
      | '.' :: more =>
          let (others, rest) ← readKeys? bound (skipSpaces more)
          return (key :: others, rest)
      | rest => return ([key], rest)

/-- A dotted key at the front of a list, and what follows it and the spaces
behind it. -/
def readDottedKey? (letters : List Char) : Option (List String × List Char) :=
  readKeys? (letters.length + 1) letters

end MeetingLog.Toml
