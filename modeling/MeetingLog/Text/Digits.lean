/-!
# Decimal digits

Numbers are written with the ten ASCII digits. A digit in the wider sense of
the Unicode property `Nd` is recognised in patterns, but it does not count
towards a value.
-/

namespace MeetingLog.Text

/-- The code points of the digit zero in every block of ten consecutive decimal
digits (Unicode property `Nd`). -/
def zeroDigitCodes : List Nat :=
  [0x30, 0x660, 0x6F0, 0x7C0, 0x966, 0x9E6, 0xA66, 0xAE6, 0xB66, 0xBE6,
    0xC66, 0xCE6, 0xD66, 0xDE6, 0xE50, 0xED0, 0xF20, 0x1040, 0x1090,
    0x17E0, 0x1810, 0x1946, 0x19D0, 0x1A80, 0x1A90, 0x1B50, 0x1BB0, 0x1C40,
    0x1C50, 0xA620, 0xA8D0, 0xA900, 0xA9D0, 0xA9F0, 0xAA50, 0xABF0, 0xFF10,
    0x104A0, 0x10D30, 0x10D40, 0x11066, 0x110F0, 0x11136, 0x111D0, 0x112F0,
    0x11450, 0x114D0, 0x11650, 0x116C0, 0x116D0, 0x116DA, 0x11730, 0x118E0,
    0x11950, 0x11BF0, 0x11C50, 0x11D50, 0x11DA0, 0x11F50, 0x16130, 0x16A60,
    0x16AC0, 0x16B50, 0x16D70, 0x1CCF0, 0x1D7CE, 0x1D7D8, 0x1D7E2, 0x1D7EC,
    0x1D7F6, 0x1E140, 0x1E2F0, 0x1E4F0, 0x1E5F1, 0x1E950, 0x1FBF0]

/-- `isDecimalDigit c` means that `c` is a decimal digit of some script. -/
def isDecimalDigit (c : Char) : Bool :=
  zeroDigitCodes.any fun start =>
    start ≤ c.toNat && c.toNat < start + 10

def digitValue? (c : Char) : Option Nat :=
  if '0' ≤ c ∧ c ≤ '9' then some (c.toNat - '0'.toNat) else none

/-- The ASCII digit with the given value; values above nine are reduced. -/
def digitChar (value : Nat) : Char :=
  Char.ofNat ('0'.toNat + value % 10)

/-- The lowest `width` decimal digits of a number, with zeros in front. -/
def fixedDigits : Nat → Nat → List Char
  | 0, _ => []
  | width + 1, number => fixedDigits width (number / 10) ++ [digitChar number]

/-- The decimal numeral of a number, without zeros in front. -/
def decimal (number : Nat) : List Char :=
  if number < 10 then [digitChar number]
  else decimal (number / 10) ++ [digitChar number]

/-- The ASCII digits at the front of a list, at most `limit` of them, and what
follows. -/
def takeDigits : Nat → List Char → List Char × List Char
  | 0, letters => ([], letters)
  | _ + 1, [] => ([], [])
  | limit + 1, c :: rest =>
      match digitValue? c with
      | none => ([], c :: rest)
      | some _ =>
          let (digits, remaining) := takeDigits limit rest
          (c :: digits, remaining)

/-- All ASCII digits at the front of a list and what follows them. -/
def spanDigits (letters : List Char) : List Char × List Char :=
  letters.span fun c => (digitValue? c).isSome

/-- The number that a list of ASCII digits writes. -/
def valueOfDigits (digits : List Char) : Nat :=
  digits.foldl (fun value c => 10 * value + (digitValue? c).getD 0) 0

/-- A number of one to `limit` ASCII digits at the front of a list, and what
follows it. -/
def readNumber? (limit : Nat) (letters : List Char) :
    Option (Nat × List Char) :=
  match takeDigits limit letters with
  | ([], _) => none
  | (digits, rest) => some (valueOfDigits digits, rest)

/-- The character at the front of a list removed when it is the expected one. -/
def expectChar? (expected : Char) : List Char → Option (List Char)
  | [] => none
  | c :: rest => if c = expected then some rest else none

/-- The remainder of a list behind the expected characters at its front. -/
def expect? : List Char → List Char → Option (List Char)
  | [], letters => some letters
  | expected :: others, letters =>
      (expectChar? expected letters).bind (expect? others)

def numeral (number : Nat) : String :=
  String.ofList (decimal number)

def integerNumeral (number : Int) : String :=
  if number < 0 then "-" ++ numeral number.natAbs else numeral number.natAbs

end MeetingLog.Text
