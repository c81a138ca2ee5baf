import MeetingLog.Configuration.Setting
import MeetingLog.Number.Plain
import MeetingLog.Text.Lines
import MeetingLog.Toml.Numeral

/-!
# Settings written line by line

A file of lines of the form `key: value` is read as settings. This is the part
of YAML that a configuration needs: plain and quoted scalars, comments, and
keys whose value stands in brackets or on indented lines, of which only the
presence matters. A file that needs more of YAML is refused.
-/

namespace MeetingLog.Configuration.Yaml

open MeetingLog.Number
open MeetingLog.Text
open MeetingLog.Toml (isSpace skipSpaces)

/-- The characters without the spaces at the end. -/
def dropSpaces (letters : List Char) : List Char :=
  (letters.reverse.dropWhile isSpace).reverse

/-- The characters in front of a comment, which begins with a mark at the
beginning or behind a space. -/
def withoutComment : Bool → List Char → List Char
  | _, [] => []
  | afterSpace, c :: rest =>
      if afterSpace && c = '#' then []
      else c :: withoutComment (isSpace c) rest

def numberText? (letters : List Char) : Option String :=
  let (isNegative, size) := Toml.readSign letters
  let real : Option String :=
    (decimalOf? size).bind fun d =>
      (nearestDouble? d).map (plainText isNegative double)
  match letters with
  | '0' :: 'x' :: digits => Toml.wholeNumber? 16 digits
  | '0' :: 'o' :: digits => Toml.wholeNumber? 8 digits
  | _ =>
      if size ≠ [] ∧ size.all fun c => (digitValue? c).isSome then
        (Toml.wholeText? isNegative (valueOfDigits size)).or real
      else real

def plainSetting (letters : List Char) : Setting :=
  let text := String.ofList letters
  if letters.isEmpty ∨ text = "~" ∨ text = "null" then .absent
  else .plain ((numberText? letters).getD text)

/-- The text in single quotes whose opening quote has been read, and what
follows it. A doubled quote stands for one. -/
def readSingle? : List Char → Option (List Char × List Char)
  | [] => none
  | '\'' :: '\'' :: rest =>
      (readSingle? rest).map fun (text, rest) => ('\'' :: text, rest)
  | '\'' :: rest => some ([], rest)
  | c :: rest => (readSingle? rest).map fun (text, rest) => (c :: text, rest)

def readQuoted? (letters : List Char) : Option (String × List Char) :=
  match letters with
  | '"' :: rest => Toml.readLine? '"' rest
  | '\'' :: rest =>
      (readSingle? rest).map fun (text, rest) => (String.ofList text, rest)
  | _ => none

/-- `meansColon letters` means that a colon at the front of the letters ends a
key. -/
def meansColon : List Char → Bool
  | [] => false
  | [c] => c = ':'
  | c :: next :: _ => c = ':' && isSpace next

def readPlainKey? : List Char → Option (List Char × List Char)
  | [] => none
  | c :: rest =>
      if meansColon (c :: rest) then some ([], rest)
      else (readPlainKey? rest).map fun (key, rest) => (c :: key, rest)

/-- A key at the front of a line and what follows its colon. -/
def readKey? (letters : List Char) : Option (String × List Char) :=
  match letters with
  | [] => none
  | c :: rest =>
      if c = '"' ∨ c = '\'' then do
        let (key, rest) ← readQuoted? (c :: rest)
        if meansColon rest then return (key, rest.drop 1) else none
      else
        (readPlainKey? (c :: rest)).map fun (key, rest) =>
          (String.ofList (dropSpaces key), rest)

/-- `hasColon letters` means that a plain scalar holds a colon that would end a
key. -/
def hasColon : List Char → Bool
  | [] => false
  | c :: rest => meansColon (c :: rest) || hasColon rest

/-- Characters that may not begin a plain scalar. -/
def marks : List Char :=
  ['&', '*', '!', '|', '>', '%', '@', '\x60', '?', ',', ']', '\x7d', '-', '#']

/-- The setting that stands behind a colon. -/
def readSetting? (letters : List Char) : Option Setting :=
  let letters := skipSpaces letters
  match letters with
  | [] => some .absent
  | c :: rest =>
      if c = '"' ∨ c = '\'' then do
        let (text, rest) ← readQuoted? letters
        if (dropSpaces (withoutComment false rest)).isEmpty then
          return .plain text
        else none
      else if c = '[' ∨ c = '\x7b' then
        let close := if c = '[' then ']' else '\x7d'
        if (dropSpaces (withoutComment false rest)).getLast? = some close then
          some .composed
        else none
      else
        let scalar := dropSpaces (withoutComment true letters)
        if hasColon scalar then none
        else if c = '-' then
          match scalar with
          | ['-'] => none
          | '-' :: next :: _ =>
              if isSpace next then none else some (plainSetting scalar)
          | _ => none
        else if scalar.isEmpty then some .absent
        else if marks.contains c then none
        else some (plainSetting scalar)

/-- `isBare letters` means that a line holds nothing but spaces and a
comment. -/
def isBare (letters : List Char) : Bool :=
  (withoutComment true letters).all isSpace

/-- The settings with one more line read. An indented line belongs to the key
in front of it, which must not have a value of its own. -/
def readLine? (given : List (String × Setting)) (line : List Char) :
    Option (List (String × Setting)) :=
  if isBare line then some given
  else
    match line with
    | [] => some given
    | c :: rest =>
        if c = ' ' ∨ (c = '-' ∧ (rest.head?.all isSpace)) then
          match given with
          | (key, setting) :: others =>
              if setting = .absent ∨ setting = .composed then
                some ((key, .composed) :: others)
              else none
          | [] => none
        else do
          let (key, rest) ← readKey? line
          let setting ← readSetting? rest
          return (key, setting) :: given

/-- The settings of a file in the order in which they are given. -/
def read? (text : String) : Option (List (String × Setting)) :=
  let lines := linesOf text.toList
  let lines :=
    match lines with
    | ['-', '-', '-'] :: others => others
    | lines => lines
  (lines.foldlM readLine? []).map List.reverse

end MeetingLog.Configuration.Yaml
