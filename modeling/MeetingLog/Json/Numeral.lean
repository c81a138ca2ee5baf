import MeetingLog.Json.Value
import MeetingLog.Number.Shortest

/-!
# Numerals

A numeral without point and exponent is a whole number as long as it fits into
sixty-four bits. Every other numeral is rounded to a double, in two steps: its
leading digits form a whole number, which is rounded and then multiplied or
divided by a power of ten.
-/

namespace MeetingLog.Json

open MeetingLog.Number
open MeetingLog.Text

/-- The number of sixty-four-bit values. -/
def wordSize : Nat :=
  18446744073709551616

/-- `significand` extended by as many digits as fit into sixty-four bits, and
the digits that do not. -/
def absorb : Nat → List Char → Nat × List Char
  | significand, [] => (significand, [])
  | significand, c :: rest =>
      let extended := 10 * significand + (digitValue? c).getD 0
      if extended < wordSize then absorb extended rest
      else (significand, c :: rest)

/-- The double with the exact value ten to a power between 0 and 308. -/
def powerOfTen (power : Nat) : Option Magnitude :=
  double.ofNat (Nat.pow 10 power)

/-- The size divided by `10 ^ 308` while the exponent lies below -308; the
first argument bounds how often. -/
def shrink : Nat → Magnitude → Int → Magnitude × Int
  | 0, size, exponent => (size, exponent)
  | steps + 1, size, exponent =>
      if exponent < -308 ∧ !size.isZero then
        match powerOfTen 308 with
        | none => (size, exponent)
        | some power =>
            match double.div size power with
            | none => (size, exponent)
            | some smaller => shrink steps smaller (exponent + 308)
      else (size, exponent)

/-- The double that stands for `significand * 10 ^ exponent`, or nothing if it
is too large. -/
def scaledDouble (significand : Nat) (exponent : Int) : Option Magnitude := do
  let size ← double.ofNat significand
  let (size, exponent) := shrink 4 size exponent
  if size.isZero then return size
  if exponent ≤ 308 then
    let power ← powerOfTen exponent.natAbs
    if 0 ≤ exponent then double.mul size power else double.div size power
  else none

/-- The largest exponent that is read digit by digit. -/
def largestExponent : Nat :=
  2147483647

/-- A fault if the text ends here, else that it is not JSON. -/
def missingDigit (letters : List Char) : Fault :=
  if letters.isEmpty then .truncated else .malformed

/-- The size of a real numeral whose mantissa has been read. -/
def readExponent (significand : Nat) (exponent : Int)
    (letters : List Char) : Reading Magnitude :=
  let exact (exponent : Int) (rest : List Char) : Reading Magnitude :=
    match scaledDouble significand exponent with
    | none => .error .malformed
    | some size => .ok (size, rest)
  let signed (isNegative : Bool) (letters : List Char) : Reading Magnitude :=
    match spanDigits letters with
    | ([], rest) => .error (missingDigit rest)
    | (digits, rest) =>
        let value := valueOfDigits digits
        if largestExponent < value then
          if significand ≠ 0 ∧ !isNegative then .error .malformed
          else .ok (double.nought, rest)
        else if isNegative then exact (exponent - (value : Int)) rest
        else exact (exponent + (value : Int)) rest
  match letters with
  | c :: rest =>
      if c = 'e' ∨ c = 'E' then
        match rest with
        | '-' :: rest => signed true rest
        | '+' :: rest => signed false rest
        | rest => signed false rest
      else exact exponent (c :: rest)
  | [] => exact exponent []

/-- The size of a real numeral whose whole part has been read: `significand`
holds its leading digits, and `dropped` counts the others. -/
def readReal (significand : Nat) (dropped : Nat)
    (letters : List Char) : Reading Magnitude :=
  match letters with
  | '.' :: rest =>
      match spanDigits rest with
      | ([], rest) => .error (missingDigit rest)
      | (digits, rest) =>
          let (extended, unused) := absorb significand digits
          readExponent extended
            ((dropped : Int) - ((digits.length - unused.length : Nat) : Int))
            rest
  | letters => readExponent significand dropped letters

/-- `continuesNumber letters` means that a numeral goes on with a point or an
exponent. -/
def continuesNumber : List Char → Bool
  | [] => false
  | c :: _ => c = '.' || c = 'e' || c = 'E'

def readUnsigned (isNegative : Bool) (letters : List Char) :
    Reading Numeral :=
  match spanDigits letters with
  | ([], rest) => .error (missingDigit rest)
  | (digits, rest) =>
      if digits.head? = some '0' ∧ 1 < digits.length then .error .malformed
      else
        let (significand, unused) := absorb 0 digits
        if unused.isEmpty && !continuesNumber rest then
          if !isNegative then
            .ok (.natural (UInt64.ofNat significand), rest)
          else if significand = 0 ∨ wordSize / 2 < significand then
            (readReal significand 0 rest).map fun (size, rest) =>
              (.real true double size, rest)
          else .ok (.negative significand, rest)
        else
          (readReal significand unused.length rest).map fun (size, rest) =>
            (.real isNegative double size, rest)

def readNumeral (letters : List Char) : Reading Numeral :=
  match letters with
  | '-' :: rest => readUnsigned true rest
  | letters => readUnsigned false letters

/-- The leading exponents of a double or single that are written without an
exponent part. -/
def positionalRange (format : Format) : Positional :=
  if format = single then ⟨-6, 12⟩ else ⟨-5, 15⟩

def writeNumeral : Numeral → List Char
  | .natural value => decimal value.toNat
  | .negative size => '-' :: decimal size
  | .real isNegative format size =>
      let digits := writeReal (positionalRange format) (shortest format size)
      if isNegative then '-' :: digits else digits

end MeetingLog.Json
