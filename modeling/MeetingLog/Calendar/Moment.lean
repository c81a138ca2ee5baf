import MeetingLog.Calendar.Clock
import MeetingLog.Calendar.Date

/-!
# Moments

A moment is a date with a time of day. Moments are ordered by date first. The
span between two moments counts a leap second only where one of the moments
lies in it.
-/

namespace MeetingLog.Calendar

open MeetingLog.Text

/-- A date with a time of day. -/
structure Moment where
  date : Date
  time : ClockTime
  deriving DecidableEq, Repr

def Date.atTime (date : Date) (time : ClockTime) : Moment :=
  ⟨date, time⟩

namespace Moment

def rank (moment : Moment) : Int :=
  moment.date.rank * (ClockTime.ranksPerDay : Int) + (moment.time.rank : Int)

/-- `atMost first second` means that `second` is not earlier than `first`. -/
def atMost (first second : Moment) : Bool :=
  first.rank ≤ second.rank

/-- `before first second` means that `first` is earlier than `second`. -/
def before (first second : Moment) : Bool :=
  first.rank < second.rank

/-- The seconds from one time of day to another, with the leap second between
them counted only if one of the times lies in it. -/
def secondsApart (first second : ClockTime) : Int :=
  let difference := (second.plainSeconds : Int) - (first.plainSeconds : Int)
  if first.plainSeconds < second.plainSeconds ∧ first.isLeap then
    difference + 1
  else if second.plainSeconds < first.plainSeconds ∧ second.isLeap then
    difference - 1
  else difference

def nanosecondsApart (first second : Moment) : Int :=
  ((second.date.dayNumber - first.date.dayNumber) * 86400 +
    secondsApart first.time second.time) * 1000000000 +
    ((second.time.fraction : Int) - (first.time.fraction : Int))

/-- The whole seconds from one moment to another, the fraction cut off. -/
def wholeSecondsApart (first second : Moment) : Int :=
  Int.tdiv (nanosecondsApart first second) 1000000000

/-- The moment a number of milliseconds later. From a leap second the clock
goes on as from the second before it. -/
def later (milliseconds : Nat) (moment : Moment) : Moment :=
  let nanoseconds := moment.time.nanosecond.val + milliseconds * 1000000
  if nanoseconds < 1000000000 then
    ⟨moment.date, moment.time.withNanoseconds nanoseconds⟩
  else
    let seconds := moment.time.plainSeconds + nanoseconds / 1000000000
    ⟨moment.date.later (seconds / 86400),
      ClockTime.ofPlainSeconds (seconds % 86400) (nanoseconds % 1000000000)⟩

def wholeSecond (moment : Moment) : Moment :=
  ⟨moment.date, moment.time.wholeSecond⟩

/-- A moment written with a space between date and time, the fraction left
out. -/
def letters (moment : Moment) : List Char :=
  moment.date.letters ++ ' ' :: moment.time.letters

/-- A moment written with a space between date and time, the fraction left
out. -/
def write (moment : Moment) : String :=
  String.ofList moment.letters

def milliseconds (moment : Moment) : Nat :=
  moment.time.nanosecond.val / 1000000

/-- The moment that a text writes, with an optional fraction of a second. -/
def read? (text : List Char) : Option Moment := do
  let (date, text) ← Date.readFront? text
  let text ← expectChar? ' ' text
  let (time, text) ← ClockTime.readFront? text
  match text with
  | [] => return ⟨date, time⟩
  | '.' :: digits =>
      let (nanoseconds, rest) ← ClockTime.readFraction? digits
      if rest.isEmpty then return ⟨date, time.withNanoseconds nanoseconds⟩
      else none
  | _ => none

end Moment

end MeetingLog.Calendar
