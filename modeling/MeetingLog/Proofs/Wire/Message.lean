import MeetingLog.Wire.Reading
import MeetingLog.Proofs.Json.Tagged

/-!
# Messages read back

Whatever is written as a message is read as the same message: members that are
left out when there is nothing to write are read as nothing, and settings may
be nested in a control message because they are read from a value like any
other. The confidence of a transcript message is the exception, as it is
rounded.
-/

namespace MeetingLog.Wire

open MeetingLog.Json

theorem fitsIn_text (depth : Nat) (text : String) :
    (Value.text text).FitsIn depth :=
  .scalar trivial

theorem fitsIn_word (depth : Nat) (word : UInt32) :
    (Value.number (.natural word.toUInt64)).FitsIn depth :=
  .scalar trivial

/-! ## Fields -/

section Fields

variable {members : List (String × Value)} {name : String}

/-- `Holds members name value` means that the members hold the value under the
name, once, or nothing if there is no value. -/
def Holds (members : List (String × Value)) (name : String)
    (value : Option Value) : Prop :=
  members.filter (fun entry => decide (entry.1 = name)) =
    optionalMember name value

theorem Holds.lookup_some {value : Value}
    (holds : Holds members name (some value)) (position : Nat) :
    Body.lookup (.members members) [name] position = .found value := by
  rw [Holds] at holds
  simp [Body.lookup, holds, optionalMember]

theorem Holds.lookup_none (holds : Holds members name none)
    (position : Nat) :
    Body.lookup (.members members) [name] position = .absent := by
  rw [Holds] at holds
  simp [Body.lookup, holds, optionalMember]

theorem Holds.required? {value : Value}
    (holds : Holds members name (some value)) (position : Nat) :
    Body.required? (.members members) [name] position = some value := by
  rw [Body.required?, holds.lookup_some]

theorem optional?_of_found {α : Type} {body : Body} {names : List String}
    {position : Nat} {value : Value} {read : Value → Option α}
    (found : body.lookup names position = .found value)
    (notNull : value ≠ .null) :
    body.optional? names position read = (read value).map some := by
  cases value with
  | null => exact absurd rfl notNull
  | boolean | number | text | list | object => rw [Body.optional?, found]

/-- A field that is left out when there is nothing to write is read back. -/
theorem Holds.nullable? {α : Type} {part : Option α} {write : α → Value}
    {read : Value → Option α} (holds : Holds members name (part.map write))
    (readBack : ∀ part, read (write part) = some part)
    (notNull : ∀ part, write part ≠ .null) (position : Nat) :
    Body.nullable? (.members members) [name] position read = some part := by
  rw [Body.nullable?]
  · cases part with
    | none => rw [Body.optional?, holds.lookup_none]
    | some part =>
        rw [optional?_of_found (holds.lookup_some position) (notNull part),
          readBack, Option.map_some]
  · intro items equality
    cases equality

/-- The members of fields, of which those without a value are left out. -/
def writeFields (fields : List (String × Option Value)) :
    List (String × Value) :=
  fields.flatMap fun field => optionalMember field.1 field.2

theorem filter_optionalMember (name wanted : String) (value : Option Value) :
    (optionalMember name value).filter
        (fun entry => decide (entry.1 = wanted)) =
      if name = wanted then optionalMember name value else [] := by
  cases value with
  | none => simp [optionalMember]
  | some value => simp [optionalMember, List.filter_cons]

theorem filter_writeFields_of_not_mem {fields : List (String × Option Value)}
    (other : name ∉ fields.map Prod.fst) :
    (writeFields fields).filter (fun entry => decide (entry.1 = name)) =
      [] := by
  induction fields with
  | nil => rfl
  | cons field others inductionHypothesis =>
      rw [List.map_cons, List.mem_cons, not_or] at other
      rw [writeFields, List.flatMap_cons, List.filter_append,
        filter_optionalMember, if_neg (Ne.symm other.1), List.nil_append]
      exact inductionHypothesis other.2

/-- What is written under distinct names is held under each of them. -/
theorem holds_writeFields {fields : List (String × Option Value)}
    (distinct : (fields.map Prod.fst).Nodup) {value : Option Value}
    (field : (name, value) ∈ fields) :
    Holds (writeFields fields) name value := by
  induction fields with
  | nil => exact absurd field List.not_mem_nil
  | cons first others inductionHypothesis =>
      rw [List.map_cons, List.nodup_cons] at distinct
      rw [Holds, writeFields, List.flatMap_cons, List.filter_append,
        filter_optionalMember]
      rcases List.mem_cons.1 field with (rfl | later)
      · have none := filter_writeFields_of_not_mem distinct.1
        rw [writeFields] at none
        rw [if_pos rfl, none, List.append_nil]
      · have different : first.1 ≠ name := by
          rintro rfl
          exact distinct.1 (List.mem_map.2 ⟨_, later, rfl⟩)
        rw [if_neg different, List.nil_append]
        exact inductionHypothesis distinct.2 later

theorem fitsIn_writeFields {fields : List (String × Option Value)}
    {depth : Nat}
    (fits : ∀ field ∈ fields, ∀ value ∈ field.2, value.FitsIn depth) :
    ∀ member ∈ writeFields fields, member.2.FitsIn depth := by
  intro member found
  obtain ⟨field, inFields, written⟩ := List.mem_flatMap.1 found
  rw [optionalMember, Option.mem_toList, Option.map_eq_some_iff] at written
  obtain ⟨value, present, rfl⟩ := written
  exact fits field inFields value present

end Fields

/-! ## Settings -/

theorem wordOf?_natural (word : UInt32) :
    wordOf? (.number (.natural word.toUInt64)) = some word := by
  have small : word.toUInt64.toNat < 4294967296 := by
    rw [UInt32.toNat_toUInt64]
    exact word.toNat_lt
  rw [wordOf?, wordOfNumeral?, if_pos small, UInt32.toUInt32_toUInt64]

theorem providerOf?_name (provider : Provider) :
    providerOf? (.text provider.name) = some provider := by
  rw [providerOf?, Provider.ofName?_name]

/-- The fields of settings. -/
def settingsFields (settings : SpeechSettings) :
    List (String × Option Value) :=
  [("provider", some (.text settings.provider.name)),
    ("language", some (.text settings.language)),
    ("model", settings.model.map Value.text),
    ("smart_format", some (.boolean settings.smartFormat)),
    ("no_delay", some (.boolean settings.noDelay)),
    ("endpointing_ms", settings.endpointing.map fun word =>
      .number (.natural word.toUInt64)),
    ("operating_point", settings.operatingPoint.map Value.text),
    ("enable_entities", some (.boolean settings.enableEntities))]

theorem settingsValue_eq (settings : SpeechSettings) :
    settingsValue settings =
      .object (writeFields (settingsFields settings)) := by
  simp [settingsValue, writeFields, settingsFields, optionalMember]

theorem settingsOfBody?_fields (settings : SpeechSettings) :
    settingsOfBody? (.members (writeFields (settingsFields settings))) =
      some settings := by
  have holds (name : String) (value : Option Value)
      (field : (name, value) ∈ settingsFields settings) :
      Holds (writeFields (settingsFields settings)) name value :=
    holds_writeFields (by simp [settingsFields]) field
  have provider := holds "provider" (some (.text settings.provider.name))
    (by simp [settingsFields])
  have language := holds "language" (some (.text settings.language))
    (by simp [settingsFields])
  have model := holds "model" (settings.model.map Value.text)
    (by simp [settingsFields])
  have smartFormat := holds "smart_format"
    (some (.boolean settings.smartFormat)) (by simp [settingsFields])
  have noDelay := holds "no_delay" (some (.boolean settings.noDelay))
    (by simp [settingsFields])
  have endpointing := holds "endpointing_ms"
    (settings.endpointing.map fun word => .number (.natural word.toUInt64))
    (by simp [settingsFields])
  have operatingPoint := holds "operating_point"
    (settings.operatingPoint.map Value.text) (by simp [settingsFields])
  have enableEntities := holds "enable_entities"
    (some (.boolean settings.enableEntities)) (by simp [settingsFields])
  have readText (text : String) : Value.text? (.text text) = some text := rfl
  have readBoolean (value : Bool) :
      Value.boolean? (.boolean value) = some value :=
    rfl
  simp [settingsOfBody?, Body.fits, provider.required?, language.required?,
    model.nullable? readText (fun _ => Value.noConfusion),
    smartFormat.required?, noDelay.required?,
    endpointing.nullable? wordOf?_natural (fun _ => Value.noConfusion),
    operatingPoint.nullable? readText (fun _ => Value.noConfusion),
    enableEntities.required?, providerOf?_name, readText, readBoolean]

theorem fitsIn_map_write {α : Type} {write : α → Value} {depth : Nat}
    (fits : ∀ part, (write part).FitsIn depth) (part : Option α) :
    ∀ value ∈ part.map write, value.FitsIn depth := by
  intro value written
  obtain ⟨found, -, rfl⟩ := Option.map_eq_some_iff.1 written
  exact fits found

theorem fitsIn_settingsValue (settings : SpeechSettings) (depth : Nat) :
    (settingsValue settings).FitsIn (depth + 1) := by
  have text (part : Option String) :
      ∀ value ∈ part.map Value.text, value.FitsIn depth :=
    fitsIn_map_write (fitsIn_text depth) part
  have word :
      ∀ value ∈ settings.endpointing.map fun word =>
        Value.number (.natural word.toUInt64), value.FitsIn depth :=
    fitsIn_map_write (fitsIn_word depth) settings.endpointing
  have truth (part : Bool) :
      ∀ value ∈ some (Value.boolean part), value.FitsIn depth := by
    rintro _ ⟨⟩
    exact .boolean part
  rw [settingsValue_eq]
  refine .object (fitsIn_writeFields ?_)
  simp only [settingsFields, List.forall_mem_cons, List.not_mem_nil,
    false_implies, implies_true, and_true]
  exact ⟨text (some _), text (some _), text settings.model, truth _, truth _,
    word, text settings.operatingPoint, truth _⟩

/-! ## Room messages -/

def RoomKind.name : RoomKind → String
  | connected => "participant_connected"
  | disconnected => "participant_disconnected"
  | trackSubscribed => "track_subscribed"

theorem RoomKind.ofName?_name (kind : RoomKind) :
    ofName? kind.name = some kind := by
  cases kind <;> decide

namespace RoomMessage

def kind : RoomMessage → RoomKind
  | connected _ _ => .connected
  | disconnected _ => .disconnected
  | trackSubscribed _ _ => .trackSubscribed

/-- The members of a room message but for its kind. -/
def members : RoomMessage → List (String × Value)
  | connected identity name =>
      [("identity", .text identity), ("name", optionalTextValue name)]
  | disconnected identity => [("identity", .text identity)]
  | trackSubscribed identity trackKind =>
      [("identity", .text identity), ("track_kind", .text trackKind)]

theorem toValue_eq (message : RoomMessage) :
    message.toValue =
      .object (("kind", .text message.kind.name) :: message.members) := by
  cases message <;> rfl

theorem members_names (message : RoomMessage) :
    ∀ member ∈ message.members, member.1 ≠ "kind" := by
  cases message <;> simp [members]

theorem fitsIn_members (message : RoomMessage) (depth : Nat) :
    ∀ member ∈ message.members, member.2.FitsIn depth := by
  cases message with
  | connected identity name =>
      cases name <;>
        simp [members, fitsIn_text, optionalTextValue, Value.FitsIn.null]
  | disconnected identity => simp [members, fitsIn_text]
  | trackSubscribed identity trackKind => simp [members, fitsIn_text]

theorem ofBody?_members (message : RoomMessage) :
    ofBody? message.kind (.members message.members) = some message := by
  cases message with
  | connected identity name =>
      cases name <;>
        simp [ofBody?, kind, members, Body.fits, Body.required?,
          Body.optional?, Body.lookup, Value.text?, optionalTextValue]
  | disconnected identity =>
      simp [ofBody?, kind, members, Body.fits, Body.required?, Body.lookup,
        Value.text?]
  | trackSubscribed identity trackKind =>
      simp [ofBody?, kind, members, Body.fits, Body.required?, Body.lookup,
        Value.text?]

theorem read_write (message : RoomMessage) :
    read message.write = .ok message := by
  rw [read, write, Value.compact, String.toList_ofList, toValue_eq]
  exact decodeTagged_writeValue isSpaced_compactStyle
    (RoomKind.ofName?_name message.kind) message.members_names
    (message.fitsIn_members _) message.ofBody?_members

end RoomMessage

/-! ## Control messages -/

def ControlAction.name : ControlAction → String
  | opening => "open"
  | closing => "close"

theorem ControlAction.ofName?_name (action : ControlAction) :
    ofName? action.name = some action := by
  cases action <;> decide

namespace ControlMessage

def action : ControlMessage → ControlAction
  | opening _ _ _ _ => .opening
  | closing _ => .closing

/-- The members of a control message but for its action. -/
def members : ControlMessage → List (String × Value)
  | opening sessionId room participant settings =>
      [("session_id", .text sessionId), ("room", .text room),
        ("participant", .text participant),
        ("settings", settingsValue settings)]
  | closing sessionId => [("session_id", .text sessionId)]

theorem toValue_eq (message : ControlMessage) :
    message.toValue =
      .object (("action", .text message.action.name) :: message.members) := by
  cases message <;> rfl

theorem members_names (message : ControlMessage) :
    ∀ member ∈ message.members, member.1 ≠ "action" := by
  cases message <;> simp [members]

theorem fitsIn_members (message : ControlMessage) (depth : Nat) :
    ∀ member ∈ message.members, member.2.FitsIn (depth + 1) := by
  cases message <;> simp [members, fitsIn_text, fitsIn_settingsValue]

theorem ofBody?_members (message : ControlMessage) :
    ofBody? message.action (.members message.members) = some message := by
  cases message with
  | opening sessionId room participant settings =>
      have inner : (settingsValue settings).body? =
          some (.members (writeFields (settingsFields settings))) := by
        rw [settingsValue_eq, Value.body?]
      simp [ofBody?, action, members, Body.fits, Body.required?, Body.lookup,
        Value.text?, inner, settingsOfBody?_fields]
  | closing sessionId =>
      simp [ofBody?, action, members, Body.fits, Body.required?, Body.lookup,
        Value.text?]

theorem read_write (message : ControlMessage) :
    read message.write = .ok message := by
  rw [read, write, Value.compact, String.toList_ofList, toValue_eq]
  exact decodeTagged_writeValue isSpaced_compactStyle
    (ControlAction.ofName?_name message.action) message.members_names
    (message.fitsIn_members _) message.ofBody?_members

end ControlMessage

/-! ## Transcript messages -/

/-- The members of a transcript message without a confidence are read one after
the other. -/
theorem TranscriptParts.steps_members (sessionId text timestamp : String)
    (isPartial : Bool) :
    Steps compactStyle reader.readMember none
      [("session_id", .text sessionId), ("text", .text text),
        ("partial", .boolean isPartial), ("timestamp", .text timestamp),
        ("confidence", .null)]
      ⟨some sessionId, some text, some isPartial, some timestamp,
        some .none⟩ := by
  refine MemberReader.steps_cons _
    ⟨some sessionId, .none, .none, .none, .none⟩ rfl rfl (fun rest => ?_) ?_
  · simp only [reader, readField, wantText_writeValue]
    rfl
  refine MemberReader.steps_cons _
    ⟨some sessionId, some text, .none, .none, .none⟩ rfl rfl
    (fun rest => ?_) ?_
  · simp only [reader, readField, wantText_writeValue]
    rfl
  refine MemberReader.steps_cons _
    ⟨some sessionId, some text, some isPartial, .none, .none⟩ rfl rfl
    (fun rest => ?_) ?_
  · simp only [reader, readField, wantBoolean_writeValue]
    rfl
  refine MemberReader.steps_cons _
    ⟨some sessionId, some text, some isPartial, some timestamp, .none⟩ rfl rfl
    (fun rest => ?_) ?_
  · simp only [reader, readField, wantText_writeValue]
    rfl
  exact MemberReader.steps_cons _ _ rfl rfl (fun _ => rfl) (.nil _)

theorem TranscriptMessage.read_write {message : TranscriptMessage}
    (unrated : message.confidence = none) :
    read message.write = .ok message := by
  obtain ⟨sessionId, text, isPartial, timestamp, confidence⟩ := message
  obtain rfl : confidence = none := unrated
  have members := MemberReader.read_writeValue true isSpaced_compactStyle
    (TranscriptParts.steps_members sessionId text timestamp isPartial) []
  rw [List.append_nil] at members
  rw [read, write, Value.compact, String.toList_ofList, toValue, members]
  rfl

/-! ## All messages -/

/-- Messages are read back from what is written, and so are those that were
read from any other text. -/
theorem messages_survive_the_wire :
    (∀ message : RoomMessage,
      RoomMessage.read message.write = .ok message) ∧
    (∀ message : ControlMessage,
      ControlMessage.read message.write = .ok message) ∧
    (∀ message : TranscriptMessage, message.confidence = none →
      TranscriptMessage.read message.write = .ok message) ∧
    (∀ (text : String) (message : RoomMessage),
      RoomMessage.read text = .ok message →
        RoomMessage.read message.write = .ok message) ∧
    (∀ (text : String) (message : ControlMessage),
      ControlMessage.read text = .ok message →
        ControlMessage.read message.write = .ok message) ∧
    ∀ (text : String) (message : TranscriptMessage),
      TranscriptMessage.read text = .ok message → message.confidence = none →
        TranscriptMessage.read message.write = .ok message :=
  ⟨RoomMessage.read_write, ControlMessage.read_write,
    fun _ => TranscriptMessage.read_write,
    fun _ message _ => message.read_write,
    fun _ message _ => message.read_write,
    fun _ _ _ => TranscriptMessage.read_write⟩

/-- Somebody who goes by no other name. -/
def guest : RoomMessage :=
  .connected "Zoë 😀" none

/-- A text about the guest with an unknown member in between and the kind at
the end. -/
def guestText : String :=
  "\x7b\"name\":null, \"more\":[[-1.5e3]] ,\"identity\":\"Zo\\u00eb \\ud83d" ++
    "\\ude00\",\"kind\":\"participant_connected\"\x7d"

def listedOpening : ControlMessage :=
  .opening "s\x00" "Küche" "ann"
    ⟨.speechmatics, "de\\", none, true, false, some 4294967295, some "", true⟩

/-- The opening as a list, with settings that are a list too. -/
def listedText : String :=
  "[\"open\",\"s\\u0000\",\"Küche\",\"ann\",[\"speechmatics\",\"de\\\\\"," ++
    "null,true,false,4294967295,\"\",true]]"

def unrated : TranscriptMessage :=
  ⟨"", "/\"", false, "\t", none⟩

/-- A text that says nothing of a confidence. -/
def unratedText : String :=
  "\x7b\"timestamp\":\"\\t\",\"partial\":false,\"text\":\"\\/\\\"\"," ++
    "\"session_id\":\"\"\x7d"

theorem unusual_messages_survive :
    (RoomMessage.read guestText = .ok guest ∧
      RoomMessage.read guest.write = .ok guest) ∧
    (ControlMessage.read listedText = .ok listedOpening ∧
      ControlMessage.read listedOpening.write = .ok listedOpening) ∧
    unrated.confidence = none ∧
    TranscriptMessage.read unratedText = .ok unrated ∧
    TranscriptMessage.read unrated.write = .ok unrated := by
  obtain ⟨-, -, -, room, control, transcript⟩ :=
    messages_survive_the_wire
  have guestRead : RoomMessage.read guestText = .ok guest := by
    decide +kernel
  have openingRead : ControlMessage.read listedText = .ok listedOpening := by
    decide +kernel
  have unratedRead : TranscriptMessage.read unratedText = .ok unrated := by
    decide +kernel
  exact ⟨⟨guestRead, room _ _ guestRead⟩,
    ⟨openingRead, control _ _ openingRead⟩, rfl, unratedRead,
    transcript _ _ unratedRead rfl⟩

end MeetingLog.Wire
