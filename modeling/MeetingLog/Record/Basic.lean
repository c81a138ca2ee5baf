import MeetingLog.Calendar.Clock
import MeetingLog.Text.Blank

/-!
# Records

The log of a meeting is a list of records: one header, the lifecycle and
transcript records of the participants, and one footer. The lifecycle and
transcript records are the core of the log.
-/

namespace MeetingLog

open MeetingLog.Calendar

/-- The record that opens a log. -/
structure Header where
  room : String
  startedAt : ClockTime
  provider : String
  deriving DecidableEq, Repr

/-- The record that closes a log. -/
structure Footer where
  endedAt : ClockTime
  deriving DecidableEq, Repr

/-- What happened to a participant. -/
inductive LifecycleKind where
  | joined
  | left
  /-- Transcription was paused because the whole group was silent. -/
  | paused
  | resumed
  deriving DecidableEq, Repr

namespace LifecycleKind

def name : LifecycleKind → String
  | joined => "joined"
  | left => "left"
  | paused => "idle_timeout"
  | resumed => "resumed"

/-- The kind that a name stands for. A pause goes by two names. -/
def ofName? (name : String) : Option LifecycleKind :=
  if name = "joined" then some joined
  else if name = "left" then some left
  else if name = "idle_timeout" ∨ name = "idle_paused" then some paused
  else if name = "resumed" then some resumed
  else none

@[simp]
theorem ofName?_name (kind : LifecycleKind) :
    ofName? kind.name = some kind := by
  cases kind <;> decide

end LifecycleKind

/-- A change in the presence of a participant. -/
structure Lifecycle where
  time : ClockTime
  participant : String
  kind : LifecycleKind
  deriving DecidableEq, Repr

/-- Something a participant said. -/
structure Transcript where
  time : ClockTime
  participant : String
  text : String
  wordCount : UInt64
  deriving DecidableEq, Repr

/-- The transcript of an utterance, whose text is trimmed; there is none if
every character of the text is blank. -/
def Transcript.ofUtterance? (time : ClockTime) (participant text : String) :
    Option Transcript :=
  let trimmed := Text.trim text
  if trimmed = "" then none
  else
    some ⟨time, participant, trimmed, UInt64.ofNat (Text.wordCount trimmed)⟩

/-- A record about a participant. -/
inductive CoreRecord where
  | lifecycle (lifecycle : Lifecycle)
  | transcript (transcript : Transcript)
  deriving DecidableEq, Repr

namespace CoreRecord

def time : CoreRecord → ClockTime
  | lifecycle entry => entry.time
  | transcript entry => entry.time

def participant : CoreRecord → String
  | lifecycle entry => entry.participant
  | transcript entry => entry.participant

end CoreRecord

/-- An entry of the log. -/
inductive Record where
  | header (header : Header)
  | footer (footer : Footer)
  | core (entry : CoreRecord)
  deriving DecidableEq, Repr

namespace Record

/-- The time of a record: when the meeting began or ended, or when the thing
recorded happened. -/
def time : Record → ClockTime
  | header entry => entry.startedAt
  | footer entry => entry.endedAt
  | core entry => entry.time

def participant? : Record → Option String
  | header _ => none
  | footer _ => none
  | core entry => some entry.participant

end Record

end MeetingLog
