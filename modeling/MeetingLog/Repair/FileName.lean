import MeetingLog.Calendar.Date
import MeetingLog.Text.Digits

/-!
# File names

The name of a log tells the room and the date. Repairing a log puts a mark at
the end of its name, possibly several times; the mark does not hide room and
date.
-/

namespace MeetingLog

open MeetingLog.Calendar
open MeetingLog.Text

/-- The mark at the end of the name of a repaired log. -/
def repairMark : String :=
  "_REPAIRED"

/-- The reversed characters of a name without the marks at its end; the first
argument bounds how many there are. -/
def dropMarks : Nat → List Char → List Char
  | 0, reversed => reversed
  | bound + 1, reversed =>
      match expect? repairMark.toList.reverse reversed with
      | none => reversed
      | some rest => dropMarks bound rest

/-- The first `count` characters if they are digits of any script, and what
follows them. -/
def takeScriptDigits? (count : Nat) (letters : List Char) :
    Option (List Char × List Char) :=
  let digits := letters.take count
  if digits.length = count && digits.all isDecimalDigit then
    some (digits, letters.drop count)
  else none

/-- The room and the date that the stem of a file name tells. -/
def readStem? (stem : String) : Option (String × Date) := do
  let rest ← expect? "protocol_".toList stem.toList
  let reversed := dropMarks rest.length rest.reverse
  let (_, reversed) ← takeScriptDigits? 6 reversed
  let reversed ← expectChar? '_' reversed
  let (date, reversed) ← takeScriptDigits? 8 reversed
  let reversed ← expectChar? '_' reversed
  if reversed.isEmpty || reversed.contains '\n' then none
  else
    let date ← Date.readCompact? date.reverse
    return (String.ofList reversed.reverse, date)

end MeetingLog
