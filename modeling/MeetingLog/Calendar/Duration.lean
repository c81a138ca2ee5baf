import MeetingLog.Number.Shortest

/-!
# Durations

A duration is a number of milliseconds. It is shown in minutes, rounded to some
decimal places, or in the unit that fits it best, with as many digits as it
needs.
-/

namespace MeetingLog.Calendar

open MeetingLog.Number
open MeetingLog.Text

/-- The minutes of a duration in double precision: the seconds with their
fraction added, divided by sixty. -/
def minutesOf (milliseconds : Nat) : Magnitude :=
  let result : Option Magnitude := do
    let seconds ← double.ofNat (milliseconds / 1000)
    let nanoseconds ← double.ofNat (milliseconds % 1000 * 1000000)
    let fraction ← double.div nanoseconds (← double.ofNat 1000000000)
    double.div (← double.add seconds fraction) (← double.ofNat 60)
  result.getD double.nought

/-- The minutes of a duration with some decimal places. -/
def minutesText (places milliseconds : Nat) : String :=
  String.ofList (writePlaces places (minutesOf milliseconds).value)

/-- The three digits of a fraction without the zeros at their end. -/
def fractionDigits (thousandths : Nat) : List Char :=
  ((fixedDigits 3 thousandths).reverse.dropWhile fun c => c = '0').reverse

/-- A duration in seconds, or in milliseconds if it is shorter than one
second. -/
def durationText (milliseconds : Nat) : String :=
  if milliseconds = 0 then "0ns"
  else if milliseconds < 1000 then numeral milliseconds ++ "ms"
  else
    match fractionDigits (milliseconds % 1000) with
    | [] => numeral (milliseconds / 1000) ++ "s"
    | digits =>
        numeral (milliseconds / 1000) ++ "." ++ String.ofList digits ++ "s"

end MeetingLog.Calendar
