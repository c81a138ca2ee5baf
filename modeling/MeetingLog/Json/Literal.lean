import MeetingLog.Json.Value

/-!
# Text literals

Between its quotes a text literal holds plain characters and escapes. An escape
with four hexadecimal digits names a sixteen-bit unit; a character beyond
sixteen bits is named by two units, a high surrogate and a low one. Reading
first cuts the literal into units and then joins the surrogates. Writing
escapes quotes, backslashes and control characters, and on request everything
that is not ASCII.
-/

namespace MeetingLog.Json

/-- A part of a text literal: a character, or a unit named by four digits. -/
inductive TextUnit where
  | plain (c : Char)
  | code (value : Nat)
  deriving DecidableEq, Repr

/-- The value of a hexadecimal digit. -/
def hexValue? (c : Char) : Option Nat :=
  if '0' ≤ c ∧ c ≤ '9' then some (c.toNat - '0'.toNat)
  else if 'a' ≤ c ∧ c ≤ 'f' then some (c.toNat - 'a'.toNat + 10)
  else if 'A' ≤ c ∧ c ≤ 'F' then some (c.toNat - 'A'.toNat + 10)
  else none

/-- The value of four hexadecimal digits. -/
def hexQuad? (a b c d : Char) : Option Nat := do
  let a ← hexValue? a
  let b ← hexValue? b
  let c ← hexValue? c
  let d ← hexValue? d
  return ((a * 16 + b) * 16 + c) * 16 + d

/-- The character that a backslash and one letter stand for. -/
def escaped? (c : Char) : Option Char :=
  if c = '"' ∨ c = '\\' ∨ c = '/' then some c
  else if c = 'b' then some '\x08'
  else if c = 'f' then some '\x0c'
  else if c = 'n' then some '\n'
  else if c = 'r' then some '\r'
  else if c = 't' then some '\t'
  else none

/-- The fault of an escape with too few characters behind it: the text ends
too early if fewer than four bytes are left. -/
def shortEscape (letters : List Char) : Fault :=
  if (String.ofList letters).utf8ByteSize < 4 then .truncated
  else .malformed

/-- The units of a literal whose opening quote has been read, up to its end or
to the first fault, and the characters behind its closing quote. -/
def readUnits : List Char → List TextUnit × Except Fault (List Char)
  | [] => ([], .error .truncated)
  | '"' :: rest => ([], .ok rest)
  | ['\\'] => ([], .error .truncated)
  | '\\' :: 'u' :: a :: b :: c :: d :: rest =>
      match hexQuad? a b c d with
      | none => ([], .error .malformed)
      | some value =>
          let (units, ending) := readUnits rest
          (.code value :: units, ending)
  | '\\' :: 'u' :: rest => ([], .error (shortEscape rest))
  | '\\' :: c :: rest =>
      match escaped? c with
      | none => ([], .error .malformed)
      | some c =>
          let (units, ending) := readUnits rest
          (.plain c :: units, ending)
  | c :: rest =>
      if c < ' ' then ([], .error .malformed)
      else
        let (units, ending) := readUnits rest
        (.plain c :: units, ending)

/-- `isHighSurrogate value` means that the unit is the first half of a
character. -/
def isHighSurrogate (value : Nat) : Bool :=
  0xD800 ≤ value && value < 0xDC00

/-- `isLowSurrogate value` means that the unit is the second half of a
character. -/
def isLowSurrogate (value : Nat) : Bool :=
  0xDC00 ≤ value && value < 0xE000

def joinSurrogates (high low : Nat) : Char :=
  Char.ofNat (0x10000 + (high - 0xD800) * 0x400 + (low - 0xDC00))

/-- The characters that units stand for, where `ending` is what follows them.
A half of a character that stands alone is a fault. -/
def joinUnits (ending : Except Fault (List Char)) :
    List TextUnit → Reading (List Char)
  | [] => ending.map fun rest => ([], rest)
  | .plain c :: units =>
      (joinUnits ending units).map fun (text, rest) => (c :: text, rest)
  | [.code value] =>
      if isHighSurrogate value then
        match ending with
        | .error fault => .error fault
        | .ok _ => .error .malformed
      else if isLowSurrogate value then .error .malformed
      else ending.map fun rest => ([Char.ofNat value], rest)
  | .code value :: .plain c :: units =>
      if isHighSurrogate value || isLowSurrogate value then .error .malformed
      else
        (joinUnits ending units).map fun (text, rest) =>
          (Char.ofNat value :: c :: text, rest)
  | .code value :: .code next :: units =>
      if isHighSurrogate value then
        if isLowSurrogate next then
          (joinUnits ending units).map fun (text, rest) =>
            (joinSurrogates value next :: text, rest)
        else .error .malformed
      else if isLowSurrogate value then .error .malformed
      else
        (joinUnits ending (.code next :: units)).map fun (text, rest) =>
          (Char.ofNat value :: text, rest)

/-- The text of a literal whose opening quote has been read. -/
def readLiteral (letters : List Char) : Reading String :=
  let (units, ending) := readUnits letters
  (joinUnits ending units).map fun (text, rest) => (String.ofList text, rest)

def hexDigit (value : Nat) : Char :=
  if value < 10 then Char.ofNat ('0'.toNat + value)
  else Char.ofNat ('a'.toNat + (value - 10))

/-- The escape that names a sixteen-bit unit. -/
def writeUnit (value : Nat) : List Char :=
  ['\\', 'u', hexDigit (value / 4096 % 16), hexDigit (value / 256 % 16),
    hexDigit (value / 16 % 16), hexDigit (value % 16)]

/-- The escapes that name a character by its units. -/
def writeUnits (c : Char) : List Char :=
  if c.toNat < 0x10000 then writeUnit c.toNat
  else
    writeUnit (0xD800 + (c.toNat - 0x10000) / 0x400) ++
      writeUnit (0xDC00 + (c.toNat - 0x10000) % 0x400)

/-- A character inside a text literal. With `asciiOnly`, characters beyond
ASCII are named by their units. -/
def writeLetter (asciiOnly : Bool) (c : Char) : List Char :=
  if c = '"' then ['\\', '"']
  else if c = '\\' then ['\\', '\\']
  else if c = '\x08' then ['\\', 'b']
  else if c = '\x0c' then ['\\', 'f']
  else if c = '\n' then ['\\', 'n']
  else if c = '\r' then ['\\', 'r']
  else if c = '\t' then ['\\', 't']
  else if c < ' ' then writeUnit c.toNat
  else if asciiOnly && 0x80 ≤ c.toNat then writeUnits c
  else [c]

def writeLiteral (asciiOnly : Bool) (text : String) : List Char :=
  '"' :: text.toList.flatMap (writeLetter asciiOnly) ++ ['"']

end MeetingLog.Json
