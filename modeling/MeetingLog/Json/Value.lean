import MeetingLog.Number.Binary

/-!
# JSON values

The values that records, messages and summaries are written as, and the three
ways in which a text can fail to be what was asked for.
-/

namespace MeetingLog.Json

open MeetingLog.Number

/-- Why a text was refused. -/
inductive Fault where
  | malformed
  /-- The text ended too early. -/
  | truncated
  /-- The text is JSON of another shape than was asked for. -/
  | mismatch
  deriving DecidableEq, Repr

/-- A number. Whole numbers of up to sixty-four bits are kept exactly. -/
inductive Numeral where
  | natural (value : UInt64)
  /-- The whole number below zero with the given size. -/
  | negative (size : Nat)
  | real (isNegative : Bool) (format : Format) (size : Magnitude)
  deriving DecidableEq, Repr

/-- A JSON value. The members of an object keep their order and may repeat a
name. -/
inductive Value where
  | null
  | boolean (value : Bool)
  | number (value : Numeral)
  | text (value : String)
  | list (items : List Value)
  | object (members : List (String × Value))

/-- What reading from the front of a list of characters gives: the thing read
and the characters behind it. -/
abbrev Reading (α : Type) :=
  Except Fault (α × List Char)

/-- `isSpace c` means that `c` may stand between the parts of a JSON text. -/
def isSpace (c : Char) : Bool :=
  c = ' ' || c = '\n' || c = '\t' || c = '\r'

/-- The characters without the spaces at the front. -/
def skipSpaces (letters : List Char) : List Char :=
  letters.dropWhile isSpace

end MeetingLog.Json
