import MeetingLog.Json.Reader

/-!
# Tagged values

A tagged value is an object in which one member, the tag, says what the other
members are for. It may also be written as a list whose first item is the tag.
The tag is checked where it stands; everything else is read first and looked at
afterwards.
-/

namespace MeetingLog.Json

/-- The parts of a structured value: named members, or items by position. -/
inductive Body where
  | members (members : List (String × Value))
  | items (items : List Value)

def Value.body? : Value → Option Body
  | .object entries => some (.members entries)
  | .list entries => some (.items entries)
  | _ => none

def Value.text? : Value → Option String
  | .text content => some content
  | _ => none

def Value.boolean? : Value → Option Bool
  | .boolean value => some value
  | _ => none

/-- The number of a whole number of up to sixty-four bits. -/
def Value.natural? : Value → Option UInt64
  | .number (.natural value) => some value
  | _ => none

/-- What a body holds for one field. -/
inductive Lookup where
  | absent
  | found (value : Value)
  | repeated

namespace Body

/-- What a body holds for a field that goes by the given names and has the
given position. -/
def lookup (body : Body) (names : List String) (position : Nat) : Lookup :=
  match body with
  | .members entries =>
      match entries.filter fun entry => names.contains entry.1 with
      | [] => .absent
      | [entry] => .found entry.2
      | _ => .repeated
  | .items entries =>
      match entries[position]? with
      | none => .absent
      | some value => .found value

def required? (body : Body) (names : List String) (position : Nat) :
    Option Value :=
  match body.lookup names position with
  | .found value => some value
  | _ => none

/-- The value of a field that may be left out or be null. The outer option is
empty if the field is there twice or does not have the wanted kind. -/
def optional? {α : Type} (body : Body) (names : List String)
    (position : Nat) (read : Value → Option α) : Option (Option α) :=
  match body.lookup names position with
  | .absent => some none
  | .found .null => some none
  | .found value => (read value).map some
  | .repeated => none

/-- The value of a field that may be null and, if the fields go by names, may
be left out. -/
def nullable? {α : Type} (body : Body) (names : List String)
    (position : Nat) (read : Value → Option α) : Option (Option α) :=
  match body, body.lookup names position with
  | .items _, .absent => none
  | _, _ => body.optional? names position read

/-- `fits body count` means that the body has no items beyond the given
number of fields. -/
def fits (body : Body) (count : Nat) : Bool :=
  match body with
  | .members _ => true
  | .items entries => entries.length ≤ count

end Body

def readTag {τ : Type} (tagOf? : String → Option τ) (letters : List Char) :
    Reading τ :=
  match skipSpaces letters with
  | '"' :: rest =>
      (readLiteral rest).bind fun (name, rest) =>
        match tagOf? name with
        | none => .error .mismatch
        | some tag => .ok (tag, rest)
  | letters => refuse letters

/-- The members of a tagged object read so far. -/
structure TaggedMembers (τ : Type) where
  tag : Option τ
  reversed : List (String × Value)

/-- One more member of a tagged object. A second tag is refused before its
value is looked at. -/
def readTaggedMember {τ : Type} (tagName : String)
    (tagOf? : String → Option τ) (state : TaggedMembers τ) (name : String)
    (rest : List Char) : Reading (TaggedMembers τ) :=
  if name = tagName then
    if state.tag.isSome then .error .mismatch
    else
      (readColon rest).bind fun rest =>
        (readTag tagOf? rest).map fun (tag, rest) =>
          ({ state with tag := some tag }, rest)
  else
    (readColon rest).bind fun rest =>
      (readValue (depthLimit - 1) rest).map fun (value, rest) =>
        ({ state with reversed := (name, value) :: state.reversed }, rest)

def readTaggedObject {τ : Type} (tagName : String)
    (tagOf? : String → Option τ) (letters : List Char) :
    Reading (τ × Body) :=
  (foldMembers readLiteral (readTaggedMember tagName tagOf?)
    (letters.length + 1) true ⟨none, []⟩ letters).bind
      fun (state, rest) =>
        match state.tag with
        | none => .error .mismatch
        | some tag => .ok ((tag, .members state.reversed.reverse), rest)

def readTaggedList {τ : Type} (tagOf? : String → Option τ)
    (letters : List Char) : Reading (τ × Body) :=
  (nextItem true letters).bind fun
    | .closed _ => .error .mismatch
    | .item rest =>
        (readTag tagOf? rest).bind fun (tag, rest) =>
          (foldItems
            (fun items rest =>
              (readValue (depthLimit - 1) rest).map fun (item, rest) =>
                (item :: items, rest))
            (rest.length + 1) false [] rest).map fun (items, rest) =>
              ((tag, .items items.reverse), rest)

/-- A tagged value at the front of a list of characters. -/
def readTagged {τ : Type} (tagName : String) (tagOf? : String → Option τ)
    (letters : List Char) : Reading (τ × Body) :=
  match skipSpaces letters with
  | '{' :: rest => readTaggedObject tagName tagOf? rest
  | '[' :: rest => readTaggedList tagOf? rest
  | letters => refuse letters

/-- The thing that a text writes as a tagged value. Its fields are checked once
it has been read to its end, and before what follows it is looked at. -/
def decodeTagged {τ α : Type} (tagName : String)
    (tagOf? : String → Option τ) (ofBody? : τ → Body → Option α)
    (letters : List Char) : Except Fault α :=
  finish <|
    (readTagged tagName tagOf? letters).bind fun ((tag, body), rest) =>
      match ofBody? tag body with
      | none => .error .mismatch
      | some result => .ok (result, rest)

end MeetingLog.Json
