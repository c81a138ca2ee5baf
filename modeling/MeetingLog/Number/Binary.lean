/-!
# Binary floating point

Averages and confidences are numbers with a fixed count of binary digits. Every
operation is done exactly on fractions and then rounded to the nearest
representable magnitude, a half going to the even one. Signs are kept by the
callers that need them.
-/

namespace MeetingLog.Number

/-- A quotient of two natural numbers. The denominators met here are
positive. -/
structure Fraction where
  numerator : Nat
  denominator : Nat
  deriving DecidableEq, Repr

namespace Fraction

/-- The fraction times a power of `base`, whose exponent may be negative. -/
def scale (base : Nat) (exponent : Int) (x : Fraction) : Fraction :=
  match exponent with
  | .ofNat power => ⟨x.numerator * Nat.pow base power, x.denominator⟩
  | .negSucc power => ⟨x.numerator, x.denominator * Nat.pow base (power + 1)⟩

/-- `less x y` means that the fraction `x` is smaller than `y`. -/
def less (x y : Fraction) : Bool :=
  x.numerator * y.denominator < y.numerator * x.denominator

/-- `atMost x y` means that the fraction `x` is at most `y`. -/
def atMost (x y : Fraction) : Bool :=
  x.numerator * y.denominator ≤ y.numerator * x.denominator

/-- The natural number nearest to a fraction, a half going to the even one. -/
def nearestEven (x : Fraction) : Nat :=
  let whole := x.numerator / x.denominator
  let twice := 2 * (x.numerator % x.denominator)
  if twice < x.denominator then whole
  else if x.denominator < twice then whole + 1
  else if whole % 2 = 0 then whole
  else whole + 1

/-- The largest exponent whose power of two is at most a positive fraction. -/
def binaryOrder (x : Fraction) : Int :=
  let estimate : Int :=
    (Nat.log2 x.numerator : Int) - (Nat.log2 x.denominator : Int)
  if less x (scale 2 estimate ⟨1, 1⟩) then estimate - 1 else estimate

end Fraction

/-- A binary format: how many binary digits a significand has, and between
which bounds its exponent lies. -/
structure Format where
  precision : Nat
  minExponent : Int
  maxExponent : Int
  deriving DecidableEq, Repr

/-- Sixty-four bits, fifty-three of them significant. -/
def double : Format :=
  ⟨53, -1074, 971⟩

/-- Thirty-two bits, twenty-four of them significant. -/
def single : Format :=
  ⟨24, -149, 104⟩

/-- The number `significand * 2 ^ exponent`. -/
structure Magnitude where
  significand : Nat
  exponent : Int
  deriving DecidableEq, Repr

namespace Magnitude

def value (m : Magnitude) : Fraction :=
  Fraction.scale 2 m.exponent ⟨m.significand, 1⟩

/-- `isZero m` means that the magnitude is zero. -/
def isZero (m : Magnitude) : Bool :=
  m.significand == 0

end Magnitude

namespace Format

def nought (format : Format) : Magnitude :=
  ⟨0, format.minExponent⟩

/-- The magnitude nearest to a fraction, or nothing if the fraction lies beyond
the largest one. -/
def round (format : Format) (x : Fraction) : Option Magnitude :=
  if x.numerator = 0 then some format.nought
  else
    let exponent :=
      max (x.binaryOrder - ((format.precision : Int) - 1)) format.minExponent
    let significand := (x.scale 2 (-exponent)).nearestEven
    let rounded : Magnitude :=
      if significand = Nat.pow 2 format.precision then
        ⟨Nat.pow 2 (format.precision - 1), exponent + 1⟩
      else ⟨significand, exponent⟩
    if rounded.exponent ≤ format.maxExponent then some rounded else none

def ofNat (format : Format) (number : Nat) : Option Magnitude :=
  format.round ⟨number, 1⟩

/-- The rounded sum. -/
def add (format : Format) (m n : Magnitude) : Option Magnitude :=
  let x := m.value
  let y := n.value
  format.round
    ⟨x.numerator * y.denominator + y.numerator * x.denominator,
      x.denominator * y.denominator⟩

/-- The rounded product. -/
def mul (format : Format) (m n : Magnitude) : Option Magnitude :=
  let x := m.value
  let y := n.value
  format.round
    ⟨x.numerator * y.numerator, x.denominator * y.denominator⟩

/-- The rounded quotient; there is none for the divisor zero. -/
def div (format : Format) (m n : Magnitude) : Option Magnitude :=
  if n.isZero then none
  else
    let x := m.value
    let y := n.value
    format.round
      ⟨x.numerator * y.denominator, x.denominator * y.numerator⟩

end Format

end MeetingLog.Number
