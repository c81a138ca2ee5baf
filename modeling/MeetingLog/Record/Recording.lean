import MeetingLog.Record.Line
import MeetingLog.Text.Lines

/-!
# Recordings

A recording is what a file of record lines says: the last header, the last
footer and the core records in the order of the file. Lines that are not
records are passed over, and blank ones do not count as lines at all.
-/

namespace MeetingLog

open MeetingLog.Json
open MeetingLog.Text

/-- The content of a file of record lines. -/
structure Recording where
  header : Option Header
  footer : Option Footer
  core : List CoreRecord
  deriving DecidableEq, Repr

namespace Recording

def empty : Recording :=
  ⟨none, none, []⟩

/-- The recording with a record put in front of it. A header or footer counts
only if no other follows. -/
def cons (record : Record) (recording : Recording) : Recording :=
  match record with
  | .header header =>
      { recording with header := recording.header.or (some header) }
  | .footer footer =>
      { recording with footer := recording.footer.or (some footer) }
  | .core entry => { recording with core := entry :: recording.core }

def ofRecords (records : List Record) : Recording :=
  records.foldr cons empty

/-- The lines of a text that are not blank, trimmed and with their numbers,
which count from `first`. -/
def numberedLines (first : Nat) : List (List Char) →
    List (Nat × List Char)
  | [] => []
  | line :: others =>
      let trimmed := trimLetters line
      if trimmed.isEmpty then numberedLines (first + 1) others
      else (first, trimmed) :: numberedLines (first + 1) others

/-- What every line of a text that is not blank reads as, with the number of
the line. -/
def readLines (content : List Char) : List (Nat × Except Fault Record) :=
  (numberedLines 1 (linesOf content)).map fun (number, line) =>
    (number, Record.readLetters line)

/-- The records that a text writes, in order. -/
def recordsOf (content : List Char) : List Record :=
  (readLines content).filterMap fun entry => entry.2.toOption

/-- The numbers of the lines of a text that are no records, with their
faults. -/
def faultsOf (content : List Char) : List (Nat × Fault) :=
  (readLines content).filterMap fun
    | (number, .error fault) => some (number, fault)
    | (_, .ok _) => none

/-- The recording that a text writes. -/
def read (content : String) : Recording :=
  ofRecords (recordsOf content.toList)

end Recording

end MeetingLog
