import MeetingLog.Number.Shortest

/-!
# Plain notation

A real number given by hand is rounded once, from its exact decimal value, to
the nearest double. In plain notation it is written with the fewest digits and
never with an exponent, so that a whole number looks like one.
-/

namespace MeetingLog.Number

open MeetingLog.Text

/-- A leading exponent beyond which, in either direction, no decimal number is
near a double other than zero. -/
def decimalReach : Int :=
  400

/-- The double nearest to a decimal number, or nothing if the number lies
beyond the largest double. -/
def nearestDouble? (d : Decimal) : Option Magnitude :=
  if d.digits = 0 then some double.nought
  else if decimalReach < d.leadingExponent then none
  else if d.leadingExponent < -decimalReach then some double.nought
  else double.round d.value

def plainText (isNegative : Bool) (format : Format) (size : Magnitude) :
    String :=
  let digits := writePlain (shortest format size)
  String.ofList (if isNegative then '-' :: digits else digits)

/-- The exponent that all of a list writes behind its mark; no letters write
the exponent zero. -/
def exponentOf? (letters : List Char) : Option Int :=
  match letters with
  | [] => some 0
  | mark :: rest =>
      let (isNegative, digits) :=
        match rest with
        | '-' :: digits => (true, digits)
        | '+' :: digits => (false, digits)
        | digits => (false, digits)
      if (mark = 'e' ∨ mark = 'E') ∧ digits ≠ [] ∧
          digits.all fun c => (digitValue? c).isSome then
        let size : Int := valueOfDigits digits
        some (if isNegative then -size else size)
      else none

/-- The real number that all of a list writes: digits with at most one point
among them and possibly an exponent. -/
def decimalOf? (letters : List Char) : Option Decimal :=
  let (whole, rest) := spanDigits letters
  let (fraction, rest) :=
    match rest with
    | '.' :: behind => spanDigits behind
    | rest => ([], rest)
  if whole.isEmpty && fraction.isEmpty then none
  else
    (exponentOf? rest).map fun exponent =>
      ⟨valueOfDigits (whole ++ fraction),
        exponent - (fraction.length : Int)⟩

/-- What is written for a number beyond all others. -/
def infinityText (isNegative : Bool) : String :=
  if isNegative then "-inf" else "inf"

/-- What is written for the result of an undefined operation. -/
def undefinedText : String :=
  "NaN"

end MeetingLog.Number
