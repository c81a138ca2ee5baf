import MeetingLog.Text.Blank
import MeetingLog.Text.Digits

/-!
# Times of day

A time of day has a resolution of one nanosecond. Every minute may hold a
sixty-first second, a leap second, which comes after second 59 and before the
next minute.
-/

namespace MeetingLog.Calendar

open MeetingLog.Text

/-- A time of day; second 60 is the leap second of its minute. -/
structure ClockTime where
  hour : Fin 24
  minute : Fin 60
  second : Fin 61
  nanosecond : Fin 1000000000
  deriving DecidableEq, Repr

namespace ClockTime

/-- The first moment of a day. -/
def midnight : ClockTime :=
  ⟨0, 0, 0, 0⟩

/-- The last whole second of a day that is not a leap second. -/
def endOfDay : ClockTime :=
  ⟨23, 59, 59, 0⟩

/-- The place of a time among all times of a day, leap seconds included. -/
def rank (time : ClockTime) : Nat :=
  ((time.hour.val * 60 + time.minute.val) * 61 + time.second.val) *
    1000000000 + time.nanosecond.val

/-- The number of places that a day has for times. -/
def ranksPerDay : Nat :=
  24 * 60 * 61 * 1000000000

/-- `isLeap time` means that the time lies in a leap second. -/
def isLeap (time : ClockTime) : Bool :=
  time.second.val == 60

/-- The seconds passed since midnight when no leap second is counted; a leap
second counts as the second before it. -/
def plainSeconds (time : ClockTime) : Nat :=
  (time.hour.val * 60 + time.minute.val) * 60 + min time.second.val 59

/-- The nanoseconds passed since the second that `plainSeconds` names. -/
def fraction (time : ClockTime) : Nat :=
  time.nanosecond.val + if time.isLeap then 1000000000 else 0

/-- The time with the given number of seconds passed since midnight, which are
taken within one day. -/
def ofPlainSeconds (seconds nanoseconds : Nat) : ClockTime where
  hour := Fin.ofNat 24 (seconds / 3600)
  minute := Fin.ofNat 60 (seconds / 60)
  second := Fin.ofNat 61 (seconds % 60)
  nanosecond := Fin.ofNat 1000000000 nanoseconds

/-- The time with its nanoseconds replaced by a number of them, which are taken
within one second. -/
def withNanoseconds (time : ClockTime) (nanoseconds : Nat) : ClockTime :=
  { time with nanosecond := Fin.ofNat 1000000000 nanoseconds }

def wholeSecond (time : ClockTime) : ClockTime :=
  { time with nanosecond := 0 }

/-- The time one second earlier on a round clock: midnight is preceded by the
last second of the day, and a leap second by second 59 of its minute. -/
def previousSecond (time : ClockTime) : ClockTime :=
  if time.isLeap then { time with second := 59 }
  else
    let seconds := time.plainSeconds
    let earlier := if seconds = 0 then 86399 else seconds - 1
    ofPlainSeconds earlier time.nanosecond.val

def ofParts? (hour minute second : Nat) : Option ClockTime :=
  if hourBound : hour < 24 then
    if minuteBound : minute < 60 then
      if secondBound : second < 61 then
        some ⟨⟨hour, hourBound⟩, ⟨minute, minuteBound⟩,
          ⟨second, secondBound⟩, 0⟩
      else none
    else none
  else none

/-- A time written as hour, minute and second with two digits each. -/
def letters (time : ClockTime) : List Char :=
  fixedDigits 2 time.hour.val ++ ':' :: fixedDigits 2 time.minute.val ++
    ':' :: fixedDigits 2 time.second.val

/-- A time written as hour, minute and second with two digits each. -/
def write (time : ClockTime) : String :=
  String.ofList time.letters

/-- A time at the front of a list and what follows it. Each of hour, minute
and second has one or two digits and may follow blank characters. -/
def readFront? (text : List Char) : Option (ClockTime × List Char) := do
  let (hour, text) ← readNumber? 2 (trimFront text)
  let text ← expectChar? ':' text
  let (minute, text) ← readNumber? 2 (trimFront text)
  let text ← expectChar? ':' text
  let (second, text) ← readNumber? 2 (trimFront text)
  let time ← ofParts? hour minute second
  return (time, text)

def read? (text : List Char) : Option ClockTime := do
  let (time, rest) ← readFront? text
  if rest.isEmpty then return time else none

/-- The nanoseconds that the digits behind a decimal point stand for; digits
beyond the ninth are passed over. -/
def readFraction? (text : List Char) : Option (Nat × List Char) :=
  match takeDigits 9 text with
  | ([], _) => none
  | (digits, rest) =>
      some (valueOfDigits digits * Nat.pow 10 (9 - digits.length),
        rest.dropWhile fun c => (digitValue? c).isSome)

/-- The seconds of a time given by hand: a colon, the seconds, and possibly a
fraction. -/
def readSeconds? (text : List Char) : Option (Nat × Nat × List Char) := do
  let text ← expectChar? ':' (trimFront text)
  let (second, text) ← readNumber? 2 (trimFront text)
  if second ≤ 60 then
    match text with
    | '.' :: digits =>
        let (nanoseconds, text) ← readFraction? digits
        return (second, nanoseconds, text)
    | _ => return (second, 0, text)
  else none

/-- The time that an argument gives by hand, `HH:MM` with optional seconds and
an optional fraction; blank characters are allowed around the numbers. -/
def readArgument? (text : List Char) : Option ClockTime := do
  let (hour, text) ← readNumber? 2 (trimFront text)
  let text ← expectChar? ':' (trimFront text)
  let (minute, text) ← readNumber? 2 (trimFront text)
  let (second, nanoseconds, text) :=
    match readSeconds? text with
    | some (second, nanoseconds, text) => (second, nanoseconds, text)
    | none => (0, 0, text)
  if (trimFront text).isEmpty then
    let time ← ofParts? hour minute second
    return time.withNanoseconds nanoseconds
  else none

end ClockTime

end MeetingLog.Calendar
