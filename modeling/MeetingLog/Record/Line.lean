import MeetingLog.Json.Tagged
import MeetingLog.Json.Writer
import MeetingLog.Record.Basic

/-!
# Record lines

Every record is written as one JSON object on a line of its own, in ASCII, with
a member that names its type. Reading is more generous than writing: members
may come in any order, unknown ones are passed over, and the room of a header
may be called a session.
-/

namespace MeetingLog

open MeetingLog.Calendar
open MeetingLog.Json

/-- The four types of records. -/
inductive RecordType where
  | header
  | footer
  | event
  | transcript
  deriving DecidableEq, Repr

namespace RecordType

def name : RecordType → String
  | header => "header"
  | footer => "footer"
  | event => "event"
  | transcript => "transcript"

def ofName? (name : String) : Option RecordType :=
  if name = "header" then some header
  else if name = "footer" then some footer
  else if name = "event" then some event
  else if name = "transcript" then some transcript
  else none

@[simp]
theorem ofName?_name (type : RecordType) :
    ofName? type.name = some type := by
  cases type <;> decide

end RecordType

def timeOf? (value : Value) : Option ClockTime :=
  value.text?.bind fun text => ClockTime.read? text.toList

def timeValue (time : ClockTime) : Value :=
  .text time.write

/-- The kind of a lifecycle record: its name, or an object whose only member
has that name and holds nothing. -/
def kindOf? : Value → Option LifecycleKind
  | .text name => LifecycleKind.ofName? name
  | .object [(name, .null)] => LifecycleKind.ofName? name
  | .object [(name, .object [])] => LifecycleKind.ofName? name
  | _ => none

namespace Header

def ofBody? (body : Body) : Option Header := do
  if !body.fits 3 then none
  let room ← (← body.required? ["room", "session_id"] 0).text?
  let startedAt ← timeOf? (← body.required? ["started_at"] 1)
  let provider ← (← body.required? ["stt_provider"] 2).text?
  return ⟨room, startedAt, provider⟩

def members (header : Header) : List (String × Value) :=
  [("room", .text header.room), ("started_at", timeValue header.startedAt),
    ("stt_provider", .text header.provider)]

end Header

namespace Footer

def ofBody? (body : Body) : Option Footer := do
  if !body.fits 1 then none
  let endedAt ← timeOf? (← body.required? ["ended_at"] 0)
  return ⟨endedAt⟩

def members (footer : Footer) : List (String × Value) :=
  [("ended_at", timeValue footer.endedAt)]

end Footer

namespace Lifecycle

/-- The lifecycle record whose fields a body holds. -/
def ofBody? (body : Body) : Option Lifecycle := do
  if !body.fits 3 then none
  let time ← timeOf? (← body.required? ["timestamp"] 0)
  let participant ← (← body.required? ["participant"] 1).text?
  let kind ← kindOf? (← body.required? ["event"] 2)
  return ⟨time, participant, kind⟩

/-- The fields of a lifecycle record. -/
def members (lifecycle : Lifecycle) : List (String × Value) :=
  [("timestamp", timeValue lifecycle.time),
    ("participant", .text lifecycle.participant),
    ("event", .text lifecycle.kind.name)]

end Lifecycle

namespace Transcript

def ofBody? (body : Body) : Option Transcript := do
  if !body.fits 4 then none
  let time ← timeOf? (← body.required? ["timestamp"] 0)
  let participant ← (← body.required? ["participant"] 1).text?
  let text ← (← body.required? ["text"] 2).text?
  let wordCount ← (← body.required? ["word_count"] 3).natural?
  return ⟨time, participant, text, wordCount⟩

def members (transcript : Transcript) : List (String × Value) :=
  [("timestamp", timeValue transcript.time),
    ("participant", .text transcript.participant),
    ("text", .text transcript.text),
    ("word_count", .number (.natural transcript.wordCount))]

end Transcript

namespace Record

def ofBody? (type : RecordType) (body : Body) : Option Record :=
  match type with
  | .header => (Header.ofBody? body).map header
  | .footer => (Footer.ofBody? body).map footer
  | .event =>
      (Lifecycle.ofBody? body).map fun entry => core (.lifecycle entry)
  | .transcript =>
      (Transcript.ofBody? body).map fun entry => core (.transcript entry)

def type : Record → RecordType
  | header _ => .header
  | footer _ => .footer
  | core (.lifecycle _) => .event
  | core (.transcript _) => .transcript

/-- The fields of a record, without its type. -/
def members : Record → List (String × Value)
  | header entry => entry.members
  | footer entry => entry.members
  | core (.lifecycle entry) => entry.members
  | core (.transcript entry) => entry.members

/-- A record as an object that names its type first. -/
def toValue (record : Record) : Value :=
  .object (("type", .text record.type.name) :: record.members)

def lineLetters (record : Record) : List Char :=
  writeValue recordStyle record.toValue

def line (record : Record) : String :=
  String.ofList record.lineLetters

/-- The record that a line writes. -/
def readLetters (letters : List Char) : Except Fault Record :=
  decodeTagged "type" RecordType.ofName? ofBody? letters

def read (line : String) : Except Fault Record :=
  readLetters line.toList

end Record

end MeetingLog
