import MeetingLog.Number.Binary
import MeetingLog.Text.Digits

/-!
# Shortest decimal form

The decimal form of a magnitude has the fewest digits that round back to it
and, among those with that many digits, is the nearest to it. A fixed number of
decimal places is written by rounding the exact value instead.
-/

namespace MeetingLog.Number

open MeetingLog.Text

/-- The number `digits * 10 ^ exponent`. -/
structure Decimal where
  digits : Nat
  exponent : Int
  deriving DecidableEq, Repr

namespace Decimal

def value (d : Decimal) : Fraction :=
  Fraction.scale 10 d.exponent ⟨d.digits, 1⟩

/-- The same number without zeros at the end of its digits; the first argument
bounds how many are taken away. -/
def withoutZeros : Nat → Decimal → Decimal
  | 0, d => d
  | steps + 1, d =>
      if d.digits ≠ 0 ∧ d.digits % 10 = 0 then
        withoutZeros steps ⟨d.digits / 10, d.exponent + 1⟩
      else d

def leadingExponent (d : Decimal) : Int :=
  d.exponent + (decimal d.digits).length - 1

end Decimal

/-- The largest exponent whose power of ten is at most a positive fraction. -/
def Fraction.decimalOrder (x : Fraction) : Int :=
  let estimate : Int :=
    ((decimal x.numerator).length : Int) -
      ((decimal x.denominator).length : Int)
  if less x (scale 10 estimate ⟨1, 1⟩) then estimate - 1 else estimate

/-- The fractions that round to a magnitude lie between two bounds, which
themselves do so exactly when the significand is even. -/
structure Cell where
  lower : Fraction
  upper : Fraction
  closed : Bool

namespace Cell

/-- The cell of a magnitude of a format. Below a power of two the neighbouring
magnitude is only half as far away. -/
def ofMagnitude (format : Format) (m : Magnitude) : Cell :=
  let lower : Magnitude :=
    if m.significand = Nat.pow 2 (format.precision - 1) ∧
        format.minExponent < m.exponent then
      ⟨4 * m.significand - 1, m.exponent - 2⟩
    else ⟨2 * m.significand - 1, m.exponent - 1⟩
  ⟨lower.value, Magnitude.value ⟨2 * m.significand + 1, m.exponent - 1⟩,
    m.significand % 2 = 0⟩

/-- `holds cell x` means that the fraction `x` rounds to the cell's
magnitude. -/
def holds (cell : Cell) (x : Fraction) : Bool :=
  if cell.closed then
    Fraction.atMost cell.lower x && Fraction.atMost x cell.upper
  else Fraction.less cell.lower x && Fraction.less x cell.upper

end Cell

/-- The multiple of `10 ^ exponent` nearest to the fraction `x` among its two
neighbours that lie in the cell. -/
def nearestOnGrid (cell : Cell) (x : Fraction) (exponent : Int) :
    Option Decimal :=
  let scaled := x.scale 10 (-exponent)
  let below : Decimal := ⟨scaled.numerator / scaled.denominator, exponent⟩
  let above : Decimal := ⟨below.digits + 1, exponent⟩
  match cell.holds below.value, cell.holds above.value with
  | true, true => some ⟨scaled.nearestEven, exponent⟩
  | true, false => some below
  | false, true => some above
  | false, false => none

/-- The decimal number with the fewest digits that rounds to a magnitude, and
the nearest of those. Seventeen digits are always enough. -/
def shortest (format : Format) (m : Magnitude) : Decimal :=
  if m.isZero then ⟨0, 0⟩
  else
    let x := m.value
    let cell := Cell.ofMagnitude format m
    let order := x.decimalOrder
    match (List.range 17).findSome? fun (more : Nat) =>
        nearestOnGrid cell x (order - (more : Int)) with
    | some found => found.withoutZeros 17
    | none => ⟨0, 0⟩

/-- Which leading exponents are written without an exponent part. -/
structure Positional where
  lowest : Int
  highest : Int
  deriving DecidableEq, Repr

/-- Digits in front of a point and behind it, with zeros where there are
none. -/
def pointed (digits : List Char) (places : Int) : List Char :=
  match places with
  | .ofNat 0 => '0' :: '.' :: digits
  | .ofNat front =>
      if digits.length ≤ front then
        digits ++ List.replicate (front - digits.length) '0'
      else digits.take front ++ '.' :: digits.drop front
  | .negSucc _ =>
      '0' :: '.' :: List.replicate (-places).toNat '0' ++ digits

/-- Digits written in full. A number below one begins with a zero. -/
def writePlain (d : Decimal) : List Char :=
  pointed (decimal d.digits) (d.leadingExponent + 1)

/-- Digits with one in front of the point and an exponent part, which always
shows its sign. -/
def writeScientific (d : Decimal) : List Char :=
  let exponent := d.leadingExponent
  let sign := if exponent < 0 then '-' else '+'
  pointed (decimal d.digits) 1 ++ 'e' :: sign :: decimal exponent.natAbs

/-- A decimal number written so that it cannot be mistaken for a whole number:
with a point, or with an exponent part where the form without one is too
long. -/
def writeReal (style : Positional) (d : Decimal) : List Char :=
  if style.lowest ≤ d.leadingExponent ∧ d.leadingExponent ≤ style.highest then
    let plain := writePlain d
    if plain.contains '.' then plain else plain ++ ['.', '0']
  else writeScientific d

/-- A fraction rounded to a number of decimal places, a half going to the even
neighbour. -/
def writePlaces (places : Nat) (x : Fraction) : List Char :=
  let scaled := (x.scale 10 places).nearestEven
  let unit := Nat.pow 10 places
  let whole := decimal (scaled / unit)
  if places = 0 then whole
  else whole ++ '.' :: fixedDigits places (scaled % unit)

end MeetingLog.Number
