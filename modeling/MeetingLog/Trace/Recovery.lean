import MeetingLog.Record.Basic
import MeetingLog.Text.Lines
import MeetingLog.Trace.Line

/-!
# Records in the trace

Three kinds of notes say what a record says: that somebody spoke, that a
participant connected, and that one disconnected. A trace line of such a note
can be read back as a record. The moment in front of it is when the note was
made; a transcript also names the time at which the record was stamped.
-/

namespace MeetingLog.Trace

open MeetingLog.Calendar
open MeetingLog.Text

/-- A record read from a trace line, with the moment at which it was noted. -/
structure Recovered where
  loggedAt : Moment
  record : CoreRecord
  deriving DecidableEq, Repr

/-- The note of something said. -/
def spokenMessage (transcript : Transcript) : String :=
  "[" ++ transcript.time.write ++ "] " ++ transcript.participant ++ ": " ++
    transcript.text

def connectedMessage (participant : String) : String :=
  "Participant connected: " ++ participant

def disconnectedMessage (participant : String) : String :=
  "Participant disconnected: " ++ participant

/-- A time with two digits for each part at the front of a list, and what
follows it. -/
def readClock? (text : List Char) : Option (ClockTime × List Char) := do
  let (hour, text) ← Date.readFixed? 2 text
  let text ← expectChar? ':' text
  let (minute, text) ← Date.readFixed? 2 text
  let text ← expectChar? ':' text
  let (second, text) ← Date.readFixed? 2 text
  let time ← ClockTime.ofParts? hour minute second
  return (time, text)

/-- What follows at least one digit of any script. -/
def skipFraction? : List Char → Option (List Char)
  | [] => none
  | c :: rest =>
      if isDecimalDigit c then some (rest.dropWhile isDecimalDigit) else none

/-- The moment at which a note of the level `info` was made by a logger, and
its message. -/
def readNote? (logger : String) (line : List Char) :
    Option (Moment × List Char) := do
  let (date, rest) ← Date.readFront? line
  let rest ← expectChar? ' ' rest
  let (time, rest) ← readClock? rest
  let rest ← expectChar? ',' rest
  let rest ← skipFraction? rest
  let rest ← expect? dash rest
  let rest ← expect? logger.toList rest
  let rest ← expect? dash rest
  let rest ← expect? "INFO".toList rest
  let rest ← expect? dash rest
  return (⟨date, time⟩, rest)

/-- The transcript that a message tells of. The name ends at the first colon,
behind which a space has to stand. -/
def readSpoken? (message : List Char) : Option Transcript := do
  let rest ← expectChar? '[' message
  let (time, rest) ← readClock? rest
  let rest ← expect? [']', ' '] rest
  let name := rest.takeWhile fun c => c ≠ ':'
  let spoken ← expect? [':', ' '] (rest.dropWhile fun c => c ≠ ':')
  if spoken.contains '\n' then none
  else
    let participant := trimLetters name
    let text := words spoken
    if participant.isEmpty || text.isEmpty then none
    else
      return ⟨time, String.ofList participant,
        String.ofList (joinWords text), UInt64.ofNat text.length⟩

def readParticipant? (rest : List Char) : Option String :=
  let participant := trimLetters rest
  if rest.contains '\n' || participant.isEmpty then none
  else some (String.ofList participant)

/-- The lifecycle record that a message tells of, noted at the given time. -/
def readPresence? (time : ClockTime) (message : List Char) :
    Option Lifecycle :=
  match expect? (connectedMessage "").toList message with
  | some rest =>
      (readParticipant? rest).map fun participant =>
        ⟨time, participant, .joined⟩
  | none =>
      match expect? (disconnectedMessage "").toList message with
      | some rest =>
          (readParticipant? rest).map fun participant =>
            ⟨time, participant, .left⟩
      | none => none

/-- The record that a trace line of a logger tells of. -/
def readLine? (logger : String) (line : List Char) : Option Recovered := do
  let (loggedAt, message) ← readNote? logger (trimLineEnd line)
  match readSpoken? message with
  | some transcript => return ⟨loggedAt, .transcript transcript⟩
  | none =>
      let lifecycle ← readPresence? loggedAt.time message
      return ⟨loggedAt, .lifecycle lifecycle⟩

/-- The records that a trace tells of, in its order. -/
def readAll (logger : String) (trace : String) : List Recovered :=
  (linesOf trace.toList).filterMap (readLine? logger)

end MeetingLog.Trace
