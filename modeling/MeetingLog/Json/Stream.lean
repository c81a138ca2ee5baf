import MeetingLog.Json.Reader

/-!
# Reading members as they come

A reader that knows which members it wants checks each of them as it comes, so
that the first fault in the text decides. Members it does not want are passed
over: their brackets have to match and their literals have to end, but halves
of characters, large numbers and deep nesting do no harm.
-/

namespace MeetingLog.Json

open MeetingLog.Text

/-- Passes over a text literal whose opening quote has been read. -/
def skipLiteral (letters : List Char) : Reading String :=
  (readUnits letters).2.map fun rest => ("", rest)

/-- Passes over at least one digit. -/
def skipDigits (letters : List Char) : Except Fault (List Char) :=
  match spanDigits letters with
  | ([], _) => .error .malformed
  | (_, rest) => .ok rest

/-- Passes over the exponent of a numeral, if it has one. -/
def skipExponent (letters : List Char) : Except Fault (List Char) :=
  match letters with
  | c :: rest =>
      if c = 'e' ∨ c = 'E' then
        match rest with
        | '-' :: rest => skipDigits rest
        | '+' :: rest => skipDigits rest
        | rest => skipDigits rest
      else .ok (c :: rest)
  | [] => .ok []

/-- Passes over a numeral without its sign. -/
def skipUnsigned (letters : List Char) : Except Fault (List Char) :=
  match spanDigits letters with
  | ([], _) => .error .malformed
  | (digits, rest) =>
      if digits.head? = some '0' ∧ 1 < digits.length then .error .malformed
      else
        match rest with
        | '.' :: rest => (skipDigits rest).bind skipExponent
        | rest => skipExponent rest

/-- Passes over a value without parts. -/
def skipScalar (letters : List Char) : Except Fault (List Char) :=
  match letters with
  | [] => .error .truncated
  | 'n' :: rest => expectWord ['u', 'l', 'l'] rest
  | 't' :: rest => expectWord ['r', 'u', 'e'] rest
  | 'f' :: rest => expectWord ['a', 'l', 's', 'e'] rest
  | '"' :: rest => (skipLiteral rest).map (·.2)
  | '-' :: rest => skipUnsigned rest
  | c :: rest =>
      if (digitValue? c).isSome then skipUnsigned (c :: rest)
      else .error .malformed

/-- Passes over a value. The first argument bounds its nesting. -/
def skipValue : Nat → List Char → Reading Unit
  | 0, _ => .error .truncated
  | bound + 1, letters =>
      match skipSpaces letters with
      | '[' :: rest =>
          foldItems (fun _ rest => skipValue bound rest)
            (rest.length + 1) true () rest
      | '{' :: rest =>
          foldMembers skipLiteral
            (fun _ _ rest => (readColon rest).bind (skipValue bound))
            (rest.length + 1) true () rest
      | letters => (skipScalar letters).map fun rest => ((), rest)

/-- Passes over the value of a member whose name has been read. -/
def skipMember (rest : List Char) : Except Fault (List Char) :=
  (readColon rest).bind fun rest =>
    (skipValue (rest.length + 1) rest).map (·.2)

def wantText (letters : List Char) : Reading String :=
  match skipSpaces letters with
  | '"' :: rest => readLiteral rest
  | letters => refuse letters

/-- A truth value where one is wanted. -/
def wantBoolean (letters : List Char) : Reading Bool :=
  match skipSpaces letters with
  | 't' :: rest =>
      (expectWord ['r', 'u', 'e'] rest).map fun rest => (true, rest)
  | 'f' :: rest =>
      (expectWord ['a', 'l', 's', 'e'] rest).map fun rest => (false, rest)
  | letters => refuse letters

def wantNumeral (letters : List Char) : Reading Numeral :=
  match skipSpaces letters with
  | c :: rest =>
      if c = '-' || (digitValue? c).isSome then readNumeral (c :: rest)
      else refuse (c :: rest)
  | [] => .error .truncated

/-- Something or null. -/
def wantOption {α : Type} (want : List Char → Reading α)
    (letters : List Char) : Reading (Option α) :=
  match skipSpaces letters with
  | 'n' :: rest =>
      (expectWord ['u', 'l', 'l'] rest).map fun rest => (none, rest)
  | letters => (want letters).map fun (value, rest) => (some value, rest)

/-- A thing wanted, brought into another form; a fault if it has none. -/
def wantAs {α β : Type} (want : List Char → Reading α) (form? : α → Option β)
    (letters : List Char) : Reading β :=
  (want letters).bind fun (value, rest) =>
    match form? value with
    | none => .error .mismatch
    | some result => .ok (result, rest)

/-- The characters behind the end of a list that has all its items. -/
def closeList (letters : List Char) : Except Fault (List Char) :=
  match skipSpaces letters with
  | [] => .error .truncated
  | ']' :: rest => .ok rest
  | _ => .error .malformed

/-- How the members of a structure are read as they come. -/
structure MemberReader (σ : Type) where
  /-- The names of the fields, in the order in which a list gives them. -/
  fields : List String
  /-- `isSet field state` means that the field has been read. -/
  isSet : String → σ → Bool
  readField : String → σ → List Char → Reading σ

namespace MemberReader

variable {σ : Type}

/-- One more member. A field that is there twice is refused before its second
value is looked at. -/
def readMember (reader : MemberReader σ) (state : σ) (name : String)
    (rest : List Char) : Reading σ :=
  if reader.fields.contains name then
    if reader.isSet name state then .error .mismatch
    else (readColon rest).bind (reader.readField name state)
  else (skipMember rest).map fun rest => (state, rest)

/-- The fields of a structure written as a list, up to its closing bracket.
With `mayStop`, the last field may be left out. -/
def readList (reader : MemberReader σ) (mayStop : Bool) :
    Bool → List String → σ → List Char → Reading σ
  | _, [], state, letters =>
      (closeList letters).map fun rest => (state, rest)
  | isFirst, field :: fields, state, letters =>
      (nextItem isFirst letters).bind fun
        | .closed rest =>
            if mayStop && fields.isEmpty then .ok (state, rest)
            else .error .mismatch
        | .item rest =>
            (reader.readField field state rest).bind fun (state, rest) =>
              readList reader mayStop false fields state rest

/-- A structure at the front of a list of characters. -/
def read (reader : MemberReader σ) (mayStop : Bool) (start : σ)
    (letters : List Char) : Reading σ :=
  match skipSpaces letters with
  | '{' :: rest =>
      foldMembers readLiteral reader.readMember (rest.length + 1) true start
        rest
  | '[' :: rest => readList reader mayStop true reader.fields start rest
  | letters => refuse letters

end MemberReader

end MeetingLog.Json
