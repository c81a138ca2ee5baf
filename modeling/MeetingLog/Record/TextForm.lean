import MeetingLog.Calendar.Moment
import MeetingLog.Record.Basic
import MeetingLog.Statistics.Basic
import MeetingLog.Text.Digits

/-!
# Text form

The log as people read it: an opening block, one or two lines for every core
record, and a closing block that may show the statistics.
-/

namespace MeetingLog

open MeetingLog.Calendar
open MeetingLog.Text

/-- The line that opens and closes a block. -/
def blockRule : String :=
  String.ofList (List.replicate 80 '=')

def openingBlock (started : Moment) (room provider : String) : String :=
  blockRule ++ "\nMeeting Protocol - " ++ started.write ++ "\nRoom: " ++
    room ++ "\nSTT Provider: " ++ provider ++ "\n" ++ blockRule ++ "\n\n"

def bracketed (time : ClockTime) : String :=
  "[" ++ time.write ++ "]"

namespace Lifecycle

/-- The lines of a lifecycle record. -/
def textForm (lifecycle : Lifecycle) : String :=
  let time := bracketed lifecycle.time
  match lifecycle.kind with
  | .joined => time ++ " >>> " ++ lifecycle.participant ++
      " joined the meeting\n\n"
  | .left => "\n" ++ time ++ " <<< " ++ lifecycle.participant ++
      " left the meeting\n\n"
  | .paused => "\n" ++ time ++ " ⏸️  " ++ lifecycle.participant ++
      " session paused (idle timeout)\n\n"
  | .resumed => time ++ " ▶️  " ++ lifecycle.participant ++
      " session resumed\n\n"

end Lifecycle

namespace Transcript

def textForm (transcript : Transcript) : String :=
  bracketed transcript.time ++ " " ++ transcript.participant ++ ": " ++
    transcript.text ++ "\n"

end Transcript

def CoreRecord.textForm : CoreRecord → String
  | .transcript entry => entry.textForm
  | .lifecycle entry => entry.textForm

/-- The lines of a record; header and footer have blocks instead. -/
def Record.textForm? : Record → Option String
  | .core entry => some entry.textForm
  | .header _ => none
  | .footer _ => none

/-- The lines of the statistics in the closing block. -/
def Statistics.textForm (statistics : Statistics) : String :=
  "\n--- Statistics ---\nTotal participants: " ++
    numeral statistics.participants.size ++ "\nTotal turns: " ++
    numeral statistics.totalTurns.toNat ++ "\nTotal words: " ++
    numeral statistics.totalWords.toNat ++ "\n\nPer participant:\n" ++
    String.join (statistics.participants.entries.map fun (identity, entry) =>
      "  " ++ identity ++ ": " ++ numeral entry.words.toNat ++ " words, " ++
        numeral entry.turns.toNat ++ " turns\n")

def closingBlock (ended : Moment) (statistics : Option Statistics) : String :=
  "\n" ++ blockRule ++ "\nMeeting ended - " ++ ended.write ++ "\n" ++
    ((statistics.map Statistics.textForm).getD "") ++ blockRule ++ "\n"

end MeetingLog
