/-!
# Bytes of a text

Texts are stored as bytes in the encoding UTF-8. Decoding cuts a list of bytes
into well-formed characters and ill-formed pieces, each piece being the longest
beginning of a character that is broken off. Reading strictly refuses every
ill-formed piece; reading leniently shows each as one replacement character.
-/

namespace MeetingLog.Text

/-- The bytes of a list of characters. -/
def encode (letters : List Char) : List UInt8 :=
  letters.flatMap String.utf8EncodeChar

def bytesOf (text : String) : List UInt8 :=
  encode text.toList

/-- `isContinuation byte` means that `byte` continues a character. -/
def isContinuation (byte : UInt8) : Bool :=
  0x80 ≤ byte && byte ≤ 0xBF

/-- The smallest and the largest second byte of a character of three bytes. -/
def secondOfThree (lead : UInt8) : UInt8 × UInt8 :=
  if lead = 0xE0 then (0xA0, 0xBF)
  else if lead = 0xED then (0x80, 0x9F)
  else (0x80, 0xBF)

/-- The smallest and the largest second byte of a character of four bytes. -/
def secondOfFour (lead : UInt8) : UInt8 × UInt8 :=
  if lead = 0xF0 then (0x90, 0xBF)
  else if lead = 0xF4 then (0x80, 0x8F)
  else (0x80, 0xBF)

/-- `inRange byte bounds` means that `byte` lies between the two bounds. -/
def inRange (byte : UInt8) (bounds : UInt8 × UInt8) : Bool :=
  bounds.1 ≤ byte && byte ≤ bounds.2

/-- The six payload bits of a continuation byte. -/
def payload (byte : UInt8) : Nat :=
  byte.toNat % 0x40

/-- The characters of a list of bytes, with `none` for every ill-formed
piece. -/
def decodePieces : List UInt8 → List (Option Char)
  | [] => []
  | lead :: rest =>
      if lead < 0x80 then some (Char.ofNat lead.toNat) :: decodePieces rest
      else if 0xC2 ≤ lead && lead ≤ 0xDF then
        match rest with
        | [] => [none]
        | second :: rest =>
            if isContinuation second then
              some (Char.ofNat (lead.toNat % 0x20 * 0x40 + payload second)) ::
                decodePieces rest
            else none :: decodePieces (second :: rest)
      else if 0xE0 ≤ lead && lead ≤ 0xEF then
        match rest with
        | [] => [none]
        | second :: rest =>
            if inRange second (secondOfThree lead) then
              match rest with
              | [] => [none]
              | third :: rest =>
                  if isContinuation third then
                    some (Char.ofNat ((lead.toNat % 0x10 * 0x40 +
                      payload second) * 0x40 + payload third)) ::
                        decodePieces rest
                  else none :: decodePieces (third :: rest)
            else none :: decodePieces (second :: rest)
      else if 0xF0 ≤ lead && lead ≤ 0xF4 then
        match rest with
        | [] => [none]
        | second :: rest =>
            if inRange second (secondOfFour lead) then
              match rest with
              | [] => [none]
              | third :: rest =>
                  if isContinuation third then
                    match rest with
                    | [] => [none]
                    | fourth :: rest =>
                        if isContinuation fourth then
                          some (Char.ofNat (((lead.toNat % 0x8 * 0x40 +
                            payload second) * 0x40 + payload third) * 0x40 +
                              payload fourth)) :: decodePieces rest
                        else none :: decodePieces (fourth :: rest)
                  else none :: decodePieces (third :: rest)
            else none :: decodePieces (second :: rest)
      else none :: decodePieces rest

/-- The list of the characters if there is no ill-formed piece. -/
def allPresent : List (Option Char) → Option (List Char)
  | [] => some []
  | none :: _ => none
  | some c :: rest => (allPresent rest).map (c :: ·)

/-- The characters of a list of bytes that is well-formed throughout. -/
def decode? (bytes : List UInt8) : Option (List Char) :=
  allPresent (decodePieces bytes)

/-- The character shown for an ill-formed piece. -/
def replacement : Char :=
  Char.ofNat 0xFFFD

/-- The characters of a list of bytes, with a replacement character for every
ill-formed piece. -/
def decodeLenient (bytes : List UInt8) : List Char :=
  (decodePieces bytes).map (·.getD replacement)

theorem encode_append (front back : List Char) :
    encode (front ++ back) = encode front ++ encode back :=
  List.flatMap_append

end MeetingLog.Text
