import MeetingLog.Text.Blank
import MeetingLog.Text.Digits

/-!
# Dates

A date of the Gregorian calendar, extended to all years. Dates are ordered by
year, month and day, and the number of days between two dates is found from
the number of days before each of them.
-/

namespace MeetingLog.Calendar

open MeetingLog.Text

/-- `isLeapYear year` means that the year has a twenty-ninth of February. -/
def isLeapYear (year : Int) : Bool :=
  (Int.emod year 4 == 0 && Int.emod year 100 != 0) || Int.emod year 400 == 0

/-- The number of days of a month, January being month zero. -/
def daysInMonth (year : Int) (month : Nat) : Nat :=
  match month with
  | 1 => if isLeapYear year then 29 else 28
  | 3 | 5 | 8 | 10 => 30
  | _ => 31

/-- A date. The month and the day count from zero. -/
structure Date where
  year : Int
  month : Fin 12
  day : Fin 31
  valid : day.val < daysInMonth year month.val
  deriving DecidableEq, Repr

namespace Date

/-- The first of January 1970. -/
def epoch : Date :=
  ⟨1970, 0, 0, by decide⟩

/-- The date with the given year, month and day, both counted from one, if
there is such a date. -/
def ofParts? (year : Int) (month day : Nat) : Option Date :=
  if monthBound : 1 ≤ month ∧ month - 1 < 12 then
    if dayBound : 1 ≤ day ∧ day - 1 < 31 then
      if valid : day - 1 < daysInMonth year (month - 1) then
        some ⟨year, ⟨month - 1, monthBound.2⟩, ⟨day - 1, dayBound.2⟩, valid⟩
      else none
    else none
  else none

def rank (date : Date) : Int :=
  (date.year * 12 + (date.month.val : Int)) * 31 + (date.day.val : Int)

def daysBeforeMonth (year : Int) : Nat → Nat
  | 0 => 0
  | month + 1 => daysBeforeMonth year month + daysInMonth year month

/-- The number of days before a date, counted from the first of January of the
year zero. -/
def dayNumber (date : Date) : Int :=
  let earlier := date.year - 1
  date.year * 365 + Int.ediv earlier 4 - Int.ediv earlier 100 +
    Int.ediv earlier 400 + (daysBeforeMonth date.year date.month.val : Int) +
    (date.day.val : Int)

def firstOfMonth (year : Int) (month : Fin 12) : Date where
  year := year
  month := month
  day := 0
  valid := by
    unfold daysInMonth
    split <;> try split
    all_goals decide

/-- The following day. -/
def next (date : Date) : Date :=
  if valid : date.day.val + 1 < daysInMonth date.year date.month.val then
    if bound : date.day.val + 1 < 31 then
      ⟨date.year, date.month, ⟨date.day.val + 1, bound⟩, valid⟩
    else date
  else if bound : date.month.val + 1 < 12 then
    firstOfMonth date.year ⟨date.month.val + 1, bound⟩
  else firstOfMonth (date.year + 1) 0

def later : Nat → Date → Date
  | 0, date => date
  | days + 1, date => later days date.next

/-- A year written with at least four digits, and with its sign when it is
negative or has more. -/
def yearLetters (year : Int) : List Char :=
  let size := year.natAbs
  let digits := if size < 10000 then fixedDigits 4 size else decimal size
  if year < 0 then '-' :: digits
  else if size < 10000 then digits
  else '+' :: digits

/-- A date written as year, month and day with dashes between them. -/
def letters (date : Date) : List Char :=
  yearLetters date.year ++ '-' :: fixedDigits 2 (date.month.val + 1) ++
    '-' :: fixedDigits 2 (date.day.val + 1)

/-- A date written as year, month and day without anything between them. -/
def compactLetters (date : Date) : List Char :=
  yearLetters date.year ++ fixedDigits 2 (date.month.val + 1) ++
    fixedDigits 2 (date.day.val + 1)

/-- A date written as year, month and day with dashes between them. -/
def write (date : Date) : String :=
  String.ofList date.letters

/-- A number of exactly `width` digits at the front of a list and what follows
it. -/
def readFixed? (width : Nat) (text : List Char) : Option (Nat × List Char) :=
  match takeDigits width text with
  | (digits, rest) =>
      if digits.length = width then some (valueOfDigits digits, rest) else none

def readFront? (text : List Char) : Option (Date × List Char) := do
  let (year, text) ← readFixed? 4 text
  let text ← expectChar? '-' text
  let (month, text) ← readFixed? 2 text
  let text ← expectChar? '-' text
  let (day, text) ← readFixed? 2 text
  let date ← ofParts? year month day
  return (date, text)

def read? (text : List Char) : Option Date := do
  let (date, rest) ← readFront? text
  if rest.isEmpty then return date else none

/-- The date that a text writes as eight digits. -/
def readCompact? (text : List Char) : Option Date := do
  let (year, text) ← readFixed? 4 text
  let (month, text) ← readFixed? 2 text
  let (day, text) ← readFixed? 2 text
  let date ← ofParts? year month day
  if text.isEmpty then return date else none

/-- A year given by hand: at most four digits, or a sign and any number of
them. -/
def readYear? (text : List Char) : Option (Int × List Char) :=
  match text with
  | '-' :: digits =>
      (readNumber? digits.length digits).map fun (year, rest) =>
        (-(year : Int), rest)
  | '+' :: digits =>
      (readNumber? digits.length digits).map fun (year, rest) =>
        ((year : Int), rest)
  | digits =>
      (readNumber? 4 digits).map fun (year, rest) => ((year : Int), rest)

/-- The years that an argument may name. -/
def isYearInRange (year : Int) : Bool :=
  -262143 ≤ year && year ≤ 262142

/-- The date that an argument gives by hand; blank characters are allowed
around the numbers. -/
def readArgument? (text : List Char) : Option Date := do
  let (year, text) ← readYear? (trimFront text)
  let text ← expectChar? '-' (trimFront text)
  let (month, text) ← readNumber? 2 (trimFront text)
  let text ← expectChar? '-' (trimFront text)
  let (day, text) ← readNumber? 2 (trimFront text)
  if (trimFront text).isEmpty && isYearInRange year then
    ofParts? year month day
  else none

end Date

end MeetingLog.Calendar
