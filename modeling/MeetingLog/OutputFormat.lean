import MeetingLog.Text.Blank
import MeetingLog.Text.LetterCase
import MeetingLog.Trace.Line

/-!
# Output formats

A log is written as text, as record lines, or as both.
-/

namespace MeetingLog

open MeetingLog.Trace

/-- In which forms a log is written. -/
inductive OutputFormat where
  | text
  | records
  | both
  deriving DecidableEq, Repr

namespace OutputFormat

/-- `writesText format` means that the text form is written. -/
def writesText : OutputFormat → Bool
  | text => true
  | records => false
  | both => true

/-- `writesRecords format` means that the record lines are written. -/
def writesRecords : OutputFormat → Bool
  | text => false
  | records => true
  | both => true

def name : OutputFormat → String
  | text => "txt"
  | records => "json"
  | both => "both"

/-- The format with a name, which may be written in any case and with blank
characters around it. -/
def ofName? (value : String) : Option OutputFormat :=
  let small := Text.toSmallLetters (Text.trim value)
  if small = "txt" then some text
  else if small = "json" then some records
  else if small = "both" then some both
  else none

/-- The format that a value asks for; an unknown one asks for both. -/
def choose (value : String) : OutputFormat :=
  (ofName? value).getD both

/-- What is noted about a value that asks for a format. -/
def notes (value : String) : List Note :=
  match ofName? value with
  | some _ => []
  | none =>
      [Note.warning ("Unknown output format '" ++
        Text.toSmallLetters (Text.trim value) ++
          "', defaulting to 'both'")]

end OutputFormat

end MeetingLog
