import MeetingLog.Json.Stream
import MeetingLog.Json.Tagged
import MeetingLog.Wire.Message

/-!
# Reading messages

Room messages and control messages are tagged: they are read to their end
before their fields are looked at. Transcript messages and settings that stand
alone have no tag and are read member by member, so that the first fault in the
text decides.
-/

namespace MeetingLog.Wire

open MeetingLog.Json

/-! ## Room messages -/

/-- The kinds of room messages. -/
inductive RoomKind where
  | connected
  | disconnected
  | trackSubscribed
  deriving DecidableEq, Repr

def RoomKind.ofName? (name : String) : Option RoomKind :=
  if name = "participant_connected" then some connected
  else if name = "participant_disconnected" then some disconnected
  else if name = "track_subscribed" then some trackSubscribed
  else none

namespace RoomMessage

def ofBody? (kind : RoomKind) (body : Body) : Option RoomMessage :=
  match kind with
  | .connected => do
      if !body.fits 2 then none
      let identity ← (← body.required? ["identity"] 0).text?
      let name ← body.optional? ["name"] 1 Value.text?
      return connected identity name
  | .disconnected => do
      if !body.fits 1 then none
      let identity ← (← body.required? ["identity"] 0).text?
      return disconnected identity
  | .trackSubscribed => do
      if !body.fits 2 then none
      let identity ← (← body.required? ["identity"] 0).text?
      let trackKind ← (← body.required? ["track_kind"] 1).text?
      return trackSubscribed identity trackKind

def read (text : String) : Except Fault RoomMessage :=
  decodeTagged "kind" RoomKind.ofName? ofBody? text.toList

end RoomMessage

/-! ## Settings -/

/-- The provider that a value names: a text, or an object whose only member has
that name and holds nothing. -/
def providerOf? : Value → Option Provider
  | .text name => Provider.ofName? name
  | .object [(name, .null)] => Provider.ofName? name
  | .object [(name, .object [])] => Provider.ofName? name
  | _ => none

/-- The number of up to thirty-two bits that a numeral writes. -/
def wordOfNumeral? : Numeral → Option UInt32
  | .natural value =>
      if value.toNat < 4294967296 then some value.toUInt32 else none
  | _ => none

/-- The number of up to thirty-two bits that a value is. -/
def wordOf? : Value → Option UInt32
  | .number numeral => wordOfNumeral? numeral
  | _ => none

def settingsOfBody? (body : Body) : Option SpeechSettings := do
  if !body.fits 8 then none
  let provider ← providerOf? (← body.required? ["provider"] 0)
  let language ← (← body.required? ["language"] 1).text?
  let model ← body.nullable? ["model"] 2 Value.text?
  let smartFormat ← (← body.required? ["smart_format"] 3).boolean?
  let noDelay ← (← body.required? ["no_delay"] 4).boolean?
  let endpointing ← body.nullable? ["endpointing_ms"] 5 wordOf?
  let operatingPoint ← body.nullable? ["operating_point"] 6 Value.text?
  let enableEntities ← (← body.required? ["enable_entities"] 7).boolean?
  return ⟨provider, language, model, smartFormat, noDelay, endpointing,
    operatingPoint, enableEntities⟩

def wantNull (letters : List Char) : Reading Unit :=
  match skipSpaces letters with
  | 'n' :: rest =>
      (expectWord ['u', 'l', 'l'] rest).map fun rest => ((), rest)
  | letters => refuse letters

/-- A provider where one is wanted: its name, or an object with that name and
null. -/
def wantProvider (letters : List Char) : Reading Provider :=
  match skipSpaces letters with
  | [] => .error .truncated
  | '"' :: rest => readTag Provider.ofName? ('"' :: rest)
  | '{' :: rest =>
      (readTag Provider.ofName? rest).bind fun (provider, rest) =>
        (readColon rest).bind fun rest =>
          (wantNull rest).bind fun (_, rest) =>
            match skipSpaces rest with
            | [] => .error .truncated
            | '}' :: rest => .ok (provider, rest)
            | _ => .error .malformed
  | _ => .error .malformed

/-- The fields of settings read so far. -/
structure SettingsParts where
  provider : Option Provider
  language : Option String
  model : Option (Option String)
  smartFormat : Option Bool
  noDelay : Option Bool
  endpointing : Option (Option UInt32)
  operatingPoint : Option (Option String)
  enableEntities : Option Bool
  deriving Repr

namespace SettingsParts

/-- No fields. -/
def none : SettingsParts :=
  ⟨.none, .none, .none, .none, .none, .none, .none, .none⟩

def complete? (parts : SettingsParts) : Option SpeechSettings := do
  let provider ← parts.provider
  let language ← parts.language
  let smartFormat ← parts.smartFormat
  let noDelay ← parts.noDelay
  let enableEntities ← parts.enableEntities
  return ⟨provider, language, parts.model.join, smartFormat, noDelay,
    parts.endpointing.join, parts.operatingPoint.join, enableEntities⟩

/-- `isSet field parts` means that the field has been read. -/
def isSet (field : String) (parts : SettingsParts) : Bool :=
  match field with
  | "provider" => parts.provider.isSome
  | "language" => parts.language.isSome
  | "model" => parts.model.isSome
  | "smart_format" => parts.smartFormat.isSome
  | "no_delay" => parts.noDelay.isSome
  | "endpointing_ms" => parts.endpointing.isSome
  | "operating_point" => parts.operatingPoint.isSome
  | _ => parts.enableEntities.isSome

def readField (field : String) (parts : SettingsParts)
    (rest : List Char) : Reading SettingsParts :=
  match field with
  | "provider" =>
      (wantProvider rest).map fun (value, rest) =>
        ({ parts with provider := some value }, rest)
  | "language" =>
      (wantText rest).map fun (value, rest) =>
        ({ parts with language := some value }, rest)
  | "model" =>
      (wantOption wantText rest).map fun (value, rest) =>
        ({ parts with model := some value }, rest)
  | "smart_format" =>
      (wantBoolean rest).map fun (value, rest) =>
        ({ parts with smartFormat := some value }, rest)
  | "no_delay" =>
      (wantBoolean rest).map fun (value, rest) =>
        ({ parts with noDelay := some value }, rest)
  | "endpointing_ms" =>
      (wantOption (wantAs wantNumeral wordOfNumeral?) rest).map
        fun (value, rest) =>
          ({ parts with endpointing := some value }, rest)
  | "operating_point" =>
      (wantOption wantText rest).map fun (value, rest) =>
        ({ parts with operatingPoint := some value }, rest)
  | _ =>
      (wantBoolean rest).map fun (value, rest) =>
        ({ parts with enableEntities := some value }, rest)

def reader : MemberReader SettingsParts where
  fields :=
    ["provider", "language", "model", "smart_format", "no_delay",
      "endpointing_ms", "operating_point", "enable_entities"]
  isSet := isSet
  readField := readField

end SettingsParts

/-- A structure read to its end, and then brought into its final form. -/
def finishParts {σ α : Type} (complete? : σ → Option α)
    (reading : Reading σ) : Except Fault α :=
  finish <|
    reading.bind fun (parts, rest) =>
      match complete? parts with
      | none => .error .mismatch
      | some result => .ok (result, rest)

def readSettings (text : String) : Except Fault SpeechSettings :=
  finishParts SettingsParts.complete?
    (SettingsParts.reader.read false .none text.toList)

/-! ## Transcript messages -/

/-- The fields of a transcript message read so far. -/
structure TranscriptParts where
  sessionId : Option String
  text : Option String
  isPartial : Option Bool
  timestamp : Option String
  confidence : Option (Option Confidence)
  deriving Repr

namespace TranscriptParts

/-- No fields. -/
def none : TranscriptParts :=
  ⟨.none, .none, .none, .none, .none⟩

def complete? (parts : TranscriptParts) : Option TranscriptMessage := do
  let sessionId ← parts.sessionId
  let text ← parts.text
  let isPartial ← parts.isPartial
  let timestamp ← parts.timestamp
  return ⟨sessionId, text, isPartial, timestamp, parts.confidence.join⟩

/-- `isSet field parts` means that the field has been read. -/
def isSet (field : String) (parts : TranscriptParts) : Bool :=
  match field with
  | "session_id" => parts.sessionId.isSome
  | "text" => parts.text.isSome
  | "partial" => parts.isPartial.isSome
  | "timestamp" => parts.timestamp.isSome
  | _ => parts.confidence.isSome

def readField (field : String) (parts : TranscriptParts)
    (rest : List Char) : Reading TranscriptParts :=
  match field with
  | "session_id" =>
      (wantText rest).map fun (value, rest) =>
        ({ parts with sessionId := some value }, rest)
  | "text" =>
      (wantText rest).map fun (value, rest) =>
        ({ parts with text := some value }, rest)
  | "partial" =>
      (wantBoolean rest).map fun (value, rest) =>
        ({ parts with isPartial := some value }, rest)
  | "timestamp" =>
      (wantText rest).map fun (value, rest) =>
        ({ parts with timestamp := some value }, rest)
  | _ =>
      (wantOption wantNumeral rest).map fun (value, rest) =>
        ({ parts with confidence := some (value.map Confidence.ofNumeral) },
          rest)

def reader : MemberReader TranscriptParts where
  fields := ["session_id", "text", "partial", "timestamp", "confidence"]
  isSet := isSet
  readField := readField

end TranscriptParts

def TranscriptMessage.read (text : String) :
    Except Fault TranscriptMessage :=
  finishParts TranscriptParts.complete?
    (TranscriptParts.reader.read true .none text.toList)

/-! ## Control messages -/

/-- The two actions of control messages. -/
inductive ControlAction where
  | opening
  | closing
  deriving DecidableEq, Repr

def ControlAction.ofName? (name : String) : Option ControlAction :=
  if name = "open" then some opening
  else if name = "close" then some closing
  else none

namespace ControlMessage

def ofBody? (action : ControlAction) (body : Body) : Option ControlMessage :=
  match action with
  | .opening => do
      if !body.fits 4 then none
      let sessionId ← (← body.required? ["session_id"] 0).text?
      let room ← (← body.required? ["room"] 1).text?
      let participant ← (← body.required? ["participant"] 2).text?
      let inner ← (← body.required? ["settings"] 3).body?
      let settings ← settingsOfBody? inner
      return opening sessionId room participant settings
  | .closing => do
      if !body.fits 1 then none
      let sessionId ← (← body.required? ["session_id"] 0).text?
      return closing sessionId

def read (text : String) : Except Fault ControlMessage :=
  decodeTagged "action" ControlAction.ofName? ofBody? text.toList

end ControlMessage

end MeetingLog.Wire
