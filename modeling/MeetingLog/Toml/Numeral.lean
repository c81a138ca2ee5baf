import MeetingLog.Calendar.Date
import MeetingLog.Number.Plain
import MeetingLog.Toml.Literal

/-!
# Numbers, dates and times

A word that begins with a digit or a sign is a number, a date or a time. All of
them are kept as texts: a number in plain decimal notation, a date and a time
in the one form in which they are always written.
-/

namespace MeetingLog.Toml

open MeetingLog.Calendar
open MeetingLog.Number
open MeetingLog.Text

/-! ## Digits -/

/-- `separates afterDigit letters` means that every underscore in the letters
stands between two digits. -/
def separates : Bool → List Char → Bool
  | afterDigit, [] => afterDigit
  | afterDigit, c :: rest =>
      if c = '_' then afterDigit && separates false rest
      else separates true rest

/-- The value of a digit in a base of at most sixteen. -/
def digitIn? (base : Nat) (c : Char) : Option Nat :=
  (Json.hexValue? c).filter fun value => value < base

/-- The digits at the front of a list, without the underscores between
them. -/
def readDigits? (base : Nat) (zerosInFront : Bool) (letters : List Char) :
    Option (List Char × List Char) :=
  let (run, rest) := letters.span fun c =>
    c = '_' || (digitIn? base c).isSome
  let digits := run.filter fun c => c ≠ '_'
  if !separates false run then none
  else if !zerosInFront && digits.head? == some '0' && 1 < digits.length then
    none
  else some (digits, rest)

def readSign (letters : List Char) : Bool × List Char :=
  match letters with
  | '-' :: rest => (true, rest)
  | '+' :: rest => (false, rest)
  | letters => (false, letters)

/-! ## Numbers -/

/-- The decimal numeral of a whole number, if it fits into sixty-four bits. -/
def wholeText? (isNegative : Bool) (size : Nat) : Option String :=
  let number : Int := if isNegative then -(size : Int) else (size : Int)
  if -(9223372036854775808 : Int) ≤ number ∧
      number ≤ 9223372036854775807 then
    some (integerNumeral number)
  else none

def wholeNumber? (base : Nat) (letters : List Char) : Option String := do
  let (digits, rest) ← readDigits? base true letters
  if rest.isEmpty then
    wholeText? false
      (digits.foldl
        (fun value c => value * base + (digitIn? base c).getD 0) 0)
  else none

/-- The whole number that all of a word writes with decimal digits. -/
def decimalNumber? (letters : List Char) : Option String := do
  let (isNegative, letters) := readSign letters
  let (digits, rest) ← readDigits? 10 false letters
  if rest.isEmpty then wholeText? isNegative (valueOfDigits digits) else none

/-- The exponent that stands behind a mantissa. A plus sign in front of it ends
the word that the mantissa stands in. -/
def readExponent? (word rest : List Char) : Option (Int × List Char) :=
  let finish (isNegative : Bool) (letters rest : List Char) :
      Option (Int × List Char) := do
    let (digits, unread) ← readDigits? 10 true letters
    let size : Int := valueOfDigits digits
    if unread.isEmpty then
      return (if isNegative then -size else size, rest)
    else none
  match word with
  | [] => some (0, rest)
  | c :: letters =>
      if c = 'e' ∨ c = 'E' then
        if letters.isEmpty then
          let rest :=
            match rest with
            | '+' :: rest => rest
            | rest => rest
          (readWord? rest).bind fun (word, rest) => finish false word rest
        else
          let (isNegative, digits) := readSign letters
          finish isNegative digits rest
      else none

/-- The text of a real number with the given parts, unless it is too large. -/
def realText? (isNegative : Bool) (whole fraction : List Char)
    (exponent : Int) : Option String :=
  (nearestDouble? ⟨valueOfDigits (whole ++ fraction),
    exponent - (fraction.length : Int)⟩).map (plainText isNegative double)

/-- A real number whose whole part is all of a word. -/
def readFraction? (word rest : List Char) : Option (String × List Char) := do
  let (isNegative, letters) := readSign word
  let (whole, unread) ← readDigits? 10 false letters
  let (behind, rest) ← readWord? rest
  let (fraction, ending) ← readDigits? 10 true behind
  let (exponent, rest) ← readExponent? ending rest
  let text ← realText? isNegative whole fraction exponent
  if unread.isEmpty then return (text, rest) else none

/-- A real number without a point but with an exponent. -/
def readScaled? (word rest : List Char) : Option (String × List Char) := do
  let (isNegative, letters) := readSign word
  let (whole, ending) ← readDigits? 10 false letters
  let (exponent, rest) ← readExponent? ending rest
  let text ← realText? isNegative whole [] exponent
  return (text, rest)

def readNumber? (word rest : List Char) : Option (String × List Char) :=
  let whole (text : Option String) : Option (String × List Char) :=
    text.map fun text => (text, rest)
  match word with
  | '0' :: 'x' :: digits => whole (wholeNumber? 16 digits)
  | '0' :: 'o' :: digits => whole (wholeNumber? 8 digits)
  | '0' :: 'b' :: digits => whole (wholeNumber? 2 digits)
  | word =>
      if word.contains 'e' || word.contains 'E' then readScaled? word rest
      else
        match rest with
        | '.' :: behind => readFraction? word behind
        | rest =>
            if word = ['i', 'n', 'f'] then
              some (infinityText false, rest)
            else if word = ['-', 'i', 'n', 'f'] then
              some (infinityText true, rest)
            else if word = ['n', 'a', 'n'] ∨ word = ['-', 'n', 'a', 'n'] then
              some (undefinedText, rest)
            else whole (decimalNumber? word)

/-! ## Dates and times -/

/-- A number of two digits that is at most `limit`. -/
def readPair? (limit : Nat) (letters : List Char) : Option (Nat × List Char) :=
  (Date.readFixed? 2 letters).filter fun (value, _) => value ≤ limit

/-- The digits of a fraction of a second as they are written: at most nine of
them, and no zeros at the end. -/
def fractionLetters (digits : List Char) : List Char :=
  let kept :=
    ((digits.take 9).reverse.dropWhile fun c => c = '0').reverse
  if kept.isEmpty then [] else '.' :: kept

/-- A time with seconds at the front of a list, as it is written. -/
def readTime? (letters : List Char) : Option (List Char × List Char) := do
  let (hour, letters) ← readPair? 24 letters
  let letters ← expectChar? ':' letters
  let (minute, letters) ← readPair? 59 letters
  let letters ← expectChar? ':' letters
  let (second, letters) ← readPair? 59 letters
  let written :=
    fixedDigits 2 hour ++ ':' :: fixedDigits 2 minute ++
      ':' :: fixedDigits 2 second
  match letters with
  | '.' :: behind =>
      match spanDigits behind with
      | ([], _) => none
      | (digits, rest) => return (written ++ fractionLetters digits, rest)
  | rest => return (written, rest)

/-- A date at the front of a list, as it is written. Every month may have
thirty-one days. -/
def readDay? (letters : List Char) : Option (List Char × List Char) := do
  let (year, letters) ← Date.readFixed? 4 letters
  let letters ← expectChar? '-' letters
  let (month, letters) ← readPair? 12 letters
  let letters ← expectChar? '-' letters
  let (day, letters) ← readPair? 31 letters
  if 1 ≤ month ∧ 1 ≤ day then
    return (fixedDigits 4 year ++ '-' :: fixedDigits 2 month ++
      '-' :: fixedDigits 2 day, letters)
  else none

/-- The distance from universal time at the front of a list, as it is
written. -/
def readOffset? (letters : List Char) : Option (List Char × List Char) :=
  match letters with
  | [] => some ([], [])
  | 'Z' :: rest => some (['Z'], rest)
  | 'z' :: rest => some (['Z'], rest)
  | sign :: rest => do
      let (hour, rest) ← readPair? 99 rest
      let rest ← expectChar? ':' rest
      let (minute, rest) ← readPair? 99 rest
      let shownSign := if hour = 0 then '+' else sign
      if sign = '+' ∨ sign = '-' then
        return (shownSign :: fixedDigits 2 hour ++
          ':' :: fixedDigits 2 minute, rest)
      else none

/-- A date at the front of a list, alone or with a time and possibly an offset
behind it, as it is written. -/
def readDayAndTime? (letters : List Char) :
    Option (List Char × List Char) := do
  let (day, rest) ← readDay? letters
  match rest with
  | mark :: behind =>
      if mark = 'T' ∨ mark = 't' ∨ mark = ' ' then
        let (time, rest) ← readTime? behind
        let (offset, rest) ← readOffset? rest
        return (day ++ 'T' :: time ++ offset, rest)
      else none
  | [] => return (day, [])

/-- A date, a time or both, as it is written. -/
def momentText? (letters : List Char) : Option String := do
  let (written, rest) ←
    if letters[2]? = some ':' then readTime? letters
    else readDayAndTime? letters
  if rest.isEmpty then return String.ofList written else none

/-- A mark and the word behind it, if the mark comes next. -/
def readMarked? (mark : Char) (letters : List Char) :
    Option (List Char × List Char) :=
  match letters with
  | [] => some ([], [])
  | c :: rest =>
      if c = mark then
        (readWord? rest).map fun (word, rest) => (mark :: word, rest)
      else some ([], c :: rest)

/-- A time of day behind a date: one space and a word. -/
def readSpaced (letters : List Char) : List Char × List Char :=
  match letters with
  | ' ' :: rest =>
      match readWord? rest with
      | none => ([], letters)
      | some (word, rest) => (' ' :: word, rest)
  | letters => ([], letters)

/-- A date or a time that begins with a word. -/
def readMoment? (word rest : List Char) : Option (String × List Char) := do
  let (hour, rest) := readSpaced rest
  let start := word ++ hour
  if rest.head? = some ':' then
    let (minute, rest) ← readMarked? ':' rest
    let (second, rest) ← readMarked? ':' rest
    let (fraction, rest) ← readMarked? '.' rest
    let (offset, rest) ← readMarked? '+' rest
    let (ending, rest) ← readMarked? ':' rest
    let text ← momentText?
      (start ++ minute ++ second ++ fraction ++ offset ++ ending)
    return (text, rest)
  else
    let text ← momentText? start
    return (text, rest)

/-- `looksDated word` means that a word begins a date rather than a number. -/
def looksDated (word : List Char) : Bool :=
  word.contains 'T' || word.contains 't' ||
    ((word.drop 1).contains '-' && !hasNegativeExponent word)
where
  hasNegativeExponent : List Char → Bool
    | c :: '-' :: rest =>
        c = 'e' || c = 'E' || hasNegativeExponent ('-' :: rest)
    | _ :: rest => hasNegativeExponent rest
    | [] => false

/-- A number, a date or a time that begins with a word. -/
def readNumberOrMoment? (word rest : List Char) : Option (String × List Char) :=
  if looksDated word || rest.head? == some ':' then readMoment? word rest
  else readNumber? word rest

end MeetingLog.Toml
