import MeetingLog.Json.Writer
import MeetingLog.RoomEvent
import MeetingLog.Speech
import MeetingLog.Text.LetterCase

/-!
# Messages

Three kinds of messages are exchanged with the outside: what happened in the
room, what was said in a session, and the opening and closing of sessions. Each
is written as a JSON object without spaces.
-/

namespace MeetingLog.Wire

open MeetingLog.Json
open MeetingLog.Number

/-- What happened in the room. -/
inductive RoomMessage where
  | connected (identity : String) (name : Option String)
  | disconnected (identity : String)
  | trackSubscribed (identity trackKind : String)
  deriving DecidableEq, Repr

/-- The event that a message tells of. Tracks that do not carry sound are of no
interest. -/
def RoomMessage.event? : RoomMessage → Option RoomEvent
  | connected identity name => some (.joined identity name)
  | disconnected identity => some (.left identity)
  | trackSubscribed identity trackKind =>
      if Text.sameAsciiLetters trackKind "audio" then
        some (.trackSubscribed identity)
      else none

/-- How sure the recognition was, in single precision. A number that is too
large for that counts as infinite. -/
inductive Confidence where
  | finite (isNegative : Bool) (size : Magnitude)
  | infinite (isNegative : Bool)
  deriving DecidableEq, Repr

namespace Confidence

def ofFraction (isNegative : Bool) (size : Fraction) : Confidence :=
  match single.round size with
  | none => infinite isNegative
  | some rounded => finite isNegative rounded

def ofNumeral : Numeral → Confidence
  | .natural value => ofFraction false ⟨value.toNat, 1⟩
  | .negative size => ofFraction true ⟨size, 1⟩
  | .real isNegative _ size => ofFraction isNegative size.value

/-- A confidence as a value; an infinite one cannot be written. -/
def toValue : Confidence → Value
  | finite isNegative size => .number (.real isNegative single size)
  | infinite _ => .null

end Confidence

/-- What was said in a session. -/
structure TranscriptMessage where
  sessionId : String
  text : String
  isPartial : Bool
  timestamp : String
  confidence : Option Confidence
  deriving DecidableEq, Repr

inductive ControlMessage where
  | opening (sessionId room participant : String)
      (settings : SpeechSettings)
  | closing (sessionId : String)
  deriving DecidableEq, Repr

/-! ## Writing -/

def optionalTextValue : Option String → Value
  | none => .null
  | some text => .text text

/-- A member that is left out when there is nothing to write. -/
def optionalMember (name : String) (value : Option Value) :
    List (String × Value) :=
  (value.map fun value => (name, value)).toList

def settingsValue (settings : SpeechSettings) : Value :=
  .object <|
    [("provider", .text settings.provider.name),
      ("language", .text settings.language)] ++
    optionalMember "model" (settings.model.map Value.text) ++
    [("smart_format", .boolean settings.smartFormat),
      ("no_delay", .boolean settings.noDelay)] ++
    optionalMember "endpointing_ms"
      (settings.endpointing.map fun value =>
        .number (.natural value.toUInt64)) ++
    optionalMember "operating_point"
      (settings.operatingPoint.map Value.text) ++
    [("enable_entities", .boolean settings.enableEntities)]

def RoomMessage.toValue : RoomMessage → Value
  | connected identity name =>
      .object
        [("kind", .text "participant_connected"),
          ("identity", .text identity), ("name", optionalTextValue name)]
  | disconnected identity =>
      .object
        [("kind", .text "participant_disconnected"),
          ("identity", .text identity)]
  | trackSubscribed identity trackKind =>
      .object
        [("kind", .text "track_subscribed"), ("identity", .text identity),
          ("track_kind", .text trackKind)]

def TranscriptMessage.toValue (message : TranscriptMessage) : Value :=
  .object
    [("session_id", .text message.sessionId), ("text", .text message.text),
      ("partial", .boolean message.isPartial),
      ("timestamp", .text message.timestamp),
      ("confidence",
        match message.confidence with
        | none => .null
        | some confidence => confidence.toValue)]

def ControlMessage.toValue : ControlMessage → Value
  | opening sessionId room participant settings =>
      .object
        [("action", .text "open"), ("session_id", .text sessionId),
          ("room", .text room), ("participant", .text participant),
          ("settings", settingsValue settings)]
  | closing sessionId =>
      .object
        [("action", .text "close"), ("session_id", .text sessionId)]

def RoomMessage.write (message : RoomMessage) : String :=
  message.toValue.compact

def TranscriptMessage.write (message : TranscriptMessage) : String :=
  message.toValue.compact

def ControlMessage.write (message : ControlMessage) : String :=
  message.toValue.compact

/-- The text of the settings of a session. -/
def writeSettings (settings : SpeechSettings) : String :=
  (settingsValue settings).compact

end MeetingLog.Wire
