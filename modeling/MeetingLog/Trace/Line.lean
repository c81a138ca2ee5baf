import MeetingLog.Calendar.Moment
import MeetingLog.Text.Lines

/-!
# Trace lines

While it works the recorder writes a trace. Each note has a level and a
message; it is written on a line that begins with the moment, the name of the
logger and the level. Control characters that could upset a terminal are
written as escapes.
-/

namespace MeetingLog.Trace

open MeetingLog.Calendar
open MeetingLog.Text

/-- How grave a note is. -/
inductive Level where
  | error
  | warning
  | info
  | debug
  | detail
  deriving DecidableEq, Repr

namespace Level

def name : Level → String
  | error => "ERROR"
  | warning => "WARNING"
  | info => "INFO"
  | debug => "DEBUG"
  | detail => "TRACE"

/-- The place of a level, the gravest first. -/
def rank : Level → Nat
  | error => 0
  | warning => 1
  | info => 2
  | debug => 3
  | detail => 4

/-- `allows limit level` means that notes of a level are shown when `limit` is
the least grave level to be shown. -/
def allows (limit level : Level) : Bool :=
  level.rank ≤ limit.rank

end Level

/-- Something worth noting. -/
structure Note where
  level : Level
  message : String
  deriving DecidableEq, Repr

namespace Note

/-- A note of the level `info`. -/
def info (message : String) : Note :=
  ⟨.info, message⟩

/-- A note of the level `warning`. -/
def warning (message : String) : Note :=
  ⟨.warning, message⟩

/-- A note of the level `error`. -/
def error (message : String) : Note :=
  ⟨.error, message⟩

/-- A note of the level `debug`. -/
def debug (message : String) : Note :=
  ⟨.debug, message⟩

end Note

/-- The name of the logger that the recorder uses. -/
def defaultLogger : String :=
  "protocol-agent"

/-- The lower hexadecimal digits of a number below 256. -/
def hexByte (number : Nat) : List Char :=
  let digit (value : Nat) : Char :=
    if value < 10 then Char.ofNat ('0'.toNat + value)
    else Char.ofNat ('a'.toNat + (value - 10))
  [digit (number / 16 % 16), digit (number % 16)]

/-- A character as it is written in a message. Bell, backspace, form feed,
escape, delete and the second block of control characters are written as
escapes. -/
def writeLetter (c : Char) : List Char :=
  let code := c.toNat
  if code = 0x1B ∨ code = 0x07 ∨ code = 0x08 ∨ code = 0x0C ∨ code = 0x7F then
    ['\\', 'x'] ++ hexByte code
  else if 0x80 ≤ code ∧ code ≤ 0x9F then
    ['\\', 'u', '\x7b'] ++ hexByte code ++ ['\x7d']
  else [c]

def writeMessage (message : String) : List Char :=
  message.toList.flatMap writeLetter

/-- What stands between the parts of a trace line. -/
def dash : List Char :=
  [' ', '-', ' ']

def lineLetters (logger : String) (time : Moment) (note : Note) :
    List Char :=
  time.letters ++ ',' :: fixedDigits 3 time.milliseconds ++ dash ++
    logger.toList ++ dash ++ note.level.name.toList ++ dash ++
      writeMessage note.message

/-- A note with the moment at which it was made. -/
structure Entry where
  time : Moment
  note : Note
  deriving DecidableEq, Repr

/-- The text that entries are written as, with the levels that `limit`
allows. -/
def write (logger : String) (limit : Level) (entries : List Entry) :
    List Char :=
  (entries.filter fun entry => limit.allows entry.note.level).flatMap
    fun entry => lineLetters logger entry.time entry.note ++ ['\n']

def writtenLines (logger : String) (limit : Level) (entries : List Entry) :
    List String :=
  (entries.filter fun entry => limit.allows entry.note.level).flatMap
    fun entry =>
      (pieces (lineLetters logger entry.time entry.note)).map String.ofList

end MeetingLog.Trace
