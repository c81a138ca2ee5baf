import MeetingLog.Toml.Value

/-!
# Documents

A document is a list of blocks. A block begins with a header, except for the
first one, and holds members. The header says into which table the members go;
with doubled brackets it adds a table to a list. Blocks may come in any order,
but no table is given two headers.
-/

namespace MeetingLog.Toml

/-- A header with its members, or the members in front of the first header. -/
structure Block where
  header : List String
  /-- Whether the header adds a table to a list. -/
  isItem : Bool
  members : Members

/-! ## Option (blocks × List Char) -/

/-- The header of a block whose first bracket has been read, and the line
behind it. -/
def readHeader? (letters : List Char) :
    Option ((List String × Bool) × List Char) := do
  let (isItem, letters) :=
    match letters with
    | '[' :: rest => (true, rest)
    | letters => (false, letters)
  let (header, rest) ← readDottedKey? (skipSpaces letters)
  let rest ← Text.expectChar? ']' rest
  let rest ← if isItem then Text.expectChar? ']' rest else some rest
  let rest ← endLine? (skipSpaces rest)
  return ((header, isItem), rest)

/-- The blocks of a document from the block on that is being read. The first
argument bounds the number of lines. -/
def readBlocks? : Nat → Block → List Char → Option (List Block)
  | 0, _, _ => none
  | bound + 1, block, letters => do
      match ← skipLayout letters with
      | [] => return [block]
      | '[' :: rest =>
          let ((header, isItem), rest) ← readHeader? rest
          let blocks ← readBlocks? bound ⟨header, isItem, []⟩ rest
          return block :: blocks
      | letters =>
          let ((keys, value), rest) ←
            readMember? (readValue? (letters.length + 1)) letters
          let members ← insertMember? keys value block.members
          let rest ← endLine? (skipSpaces rest)
          readBlocks? bound { block with members := members } rest

/-! ## Putting blocks together -/

/-- The blocks whose headers begin with a key, with the key taken away. -/
def blocksUnder (key : String) (blocks : List Block) : List Block :=
  blocks.filterMap fun block =>
    match block.header with
    | first :: others =>
        if first = key then some { block with header := others } else none
    | [] => none

def firstKeys (blocks : List Block) : List String :=
  (blocks.filterMap fun block => block.header.head?).eraseDups

def cutItems : List Block → List (List Block)
  | [] => []
  | block :: others =>
      match cutItems others with
      | [] => [[block]]
      | group :: groups =>
          if (group.head?.any fun next => next.isItem && next.header.isEmpty)
          then [block] :: group :: groups
          else (block :: group) :: groups

def ownMembers? (blocks : List Block) : Option Members :=
  match blocks.filter fun block => block.header.isEmpty with
  | [] => some []
  | [block] => if block.isItem then none else some block.members
  | _ => none

def asTable (group : List Block) : List Block :=
  match group with
  | block :: others => { block with isItem := false } :: others
  | [] => []

/-- The members of the table that blocks describe together. The first argument
bounds the length of their headers. -/
def membersOf? : Nat → List Block → Option Members
  | 0, _ => none
  | bound + 1, blocks => do
      let own ← ownMembers? blocks
      let inner ← (firstKeys blocks).mapM fun key =>
        let group := blocksUnder key blocks
        let beginsList :=
          group.head?.any fun block => block.isItem && block.header.isEmpty
        let value : Option Value :=
          if beginsList then
            ((cutItems group).mapM fun item =>
              (membersOf? bound (asTable item)).map (Value.table false)).map
                Value.list
          else (membersOf? bound group).map (Value.table false)
        value.map fun value => (key, value)
      if inner.any fun member => hasMember own member.1 then none
      else return own ++ inner

/-- The text with every line ended by a single line feed, and without a mark at
its beginning that tells the order of bytes. -/
def foldLineEnds : List Char → List Char
  | [] => []
  | '\r' :: '\n' :: rest => '\n' :: foldLineEnds rest
  | c :: rest => c :: foldLineEnds rest

/-- The members of the outermost table of a document. -/
def read? (text : String) : Option Members := do
  let letters := foldLineEnds text.toList
  let letters :=
    match letters with
    | '\uFEFF' :: rest => rest
    | letters => letters
  let blocks ← readBlocks? (letters.length + 1) ⟨[], false, []⟩ letters
  let longest := blocks.foldl
    (fun longest block => Nat.max longest block.header.length) 0
  membersOf? (longest + 1) blocks

end MeetingLog.Toml
