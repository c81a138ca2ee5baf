import MeetingLog.Files.Tree
import MeetingLog.Repair.FileName
import MeetingLog.Repair.Merge
import MeetingLog.Store.Basic

/-!
# Repairing files

A repair run reads a record file and a trace, and writes the repaired log next
to them or into another directory. What is not given is found out: the date
from the file name or else from the file itself, the room from the header or
from the file name. Everything is computed before the first file is written.
-/

namespace MeetingLog

open MeetingLog.Calendar
open MeetingLog.Files
open MeetingLog.Trace

/-- What a repair run is asked to do. -/
structure RepairOptions where
  input : Path
  trace : Option Path
  outputDirectory : Option Path
  date : Option Date
  start : Option ClockTime
  finish : Option ClockTime
  room : Option String
  statistics : Bool
  logger : String
  deriving DecidableEq, Repr

/-- Why a repair run failed. -/
inductive RepairError where
  | unreadable (path : Path) (error : FileError)
  | undated (path : Path) (error : FileError)
  | uncreatable (path : Path) (error : FileError)
  | unwritable (path : Path) (error : FileError)
  | store (error : StoreError)
  deriving DecidableEq, Repr

/-- The texts of an error and of what caused it, the outermost first. -/
def RepairError.chain : RepairError → List String
  | unreadable path error =>
      ["Could not read record stream " ++ shown path, error.message]
  | undated path error =>
      ["Could not determine session date of " ++ shown path, error.message]
  | uncreatable path error =>
      ["Could not create " ++ shown path, error.message]
  | unwritable path error => ["Could not write " ++ shown path, error.message]
  | store error => error.chain

/-- What a repair run found and wrote. -/
structure RepairReport where
  gaps : List Gap
  existing : Nat
  recovered : Nat
  outputs : LogPaths
  deriving DecidableEq, Repr

/-- What a repair run leads to. -/
structure RepairOutcome where
  files : FileTree
  notes : List Note
  result : Except RepairError RepairReport

/-- What is said about a line that is not a record. -/
def faultText : Json.Fault → String
  | .malformed => "not JSON"
  | .truncated => "ended too early"
  | .mismatch => "not a record"

/-- What is noted about the lines of a text that are not records. -/
def faultNotes (content : List Char) : List Note :=
  (Recording.faultsOf content).map fun (number, fault) =>
    Note.warning ("Skipping malformed record on line " ++
      Text.numeral number ++ ": " ++ faultText fault)

namespace RepairOptions

/-- The name of the input file without its extension, as it is shown. -/
def stem (options : RepairOptions) : String :=
  ((stem? options.input).map shown).getD "protocol"

def tracePath (options : RepairOptions) : Path :=
  options.trace.getD
    (join ((parent? options.input).getD [dot])
      (Text.bytesOf "transcribe.txt"))

def directory (options : RepairOptions) : Path :=
  (options.outputDirectory.or (parent? options.input)).getD [dot]

def outputs (options : RepairOptions) : LogPaths :=
  LogPaths.ofBase options.directory (options.stem ++ repairMark)

/-- The date of the meeting, and what is noted when neither the options nor
the file name tell it. -/
def findDate (options : RepairOptions) (files : FileTree) :
    Except RepairError (Date × List Note) :=
  match options.date.or ((readStem? options.stem).map (·.2)) with
  | some date => .ok (date, [])
  | none =>
      match files.modifiedOn options.input with
      | .error error => .error (.undated options.input error)
      | .ok date =>
          .ok (date,
            [Note.warning ("No session date given, using file modification " ++
              "date " ++ date.write)])

def findRoom (options : RepairOptions) (recording : Recording) : String :=
  ((options.room.or (recording.header.map Header.room)).or
    ((readStem? options.stem).map (·.1))).getD "unknown"

/-- The text of the trace, which is empty if it cannot be read, and what is
noted in that case. -/
def findTrace (options : RepairOptions) (files : FileTree) :
    String × List Note :=
  match files.readBytes options.tracePath with
  | .ok bytes => (String.ofList (Text.decodeLenient bytes), [])
  | .error error =>
      ("", [Note.warning ("Could not read trace " ++
        shown options.tracePath ++ ": " ++ error.message ++
          ", nothing to recover")])

end RepairOptions

/-- Writes a repaired recording. -/
def writeRepaired (write : TextWriter) (options : RepairOptions)
    (repaired : Repaired) (files : FileTree) :
    FileTree × List Note × Except RepairError Unit :=
  let outputs := options.outputs
  match files.createDirectories options.directory with
  | (files, .error error) =>
      (files, [], .error (.uncreatable options.directory error))
  | (files, .ok ()) =>
      let notes := [Note.info ("Writing " ++ shown outputs.records)]
      match write files outputs.records repaired.recordLines with
      | (files, .error error) =>
          (files, notes, .error (.unwritable outputs.records error))
      | (files, .ok ()) =>
          let notes := notes ++ [Note.info ("Writing " ++ shown outputs.text)]
          match write files outputs.text
              (repaired.textForm options.statistics) with
          | (files, .error error) =>
              (files, notes, .error (.unwritable outputs.text error))
          | (files, .ok ()) =>
              if options.statistics then
                match writeArtifact write files outputs.statistics
                    repaired.statistics with
                | (files, .error error) =>
                    (files, notes, .error (.store error))
                | (files, .ok ()) => (files, notes, .ok ())
              else (files, notes, .ok ())

/-- Repairs a recording that has been read and writes the result. -/
def repairRecording (write : TextWriter) (options : RepairOptions)
    (content : String) (files : FileTree) : RepairOutcome :=
  let recording := Recording.read content
  let loaded := faultNotes content.toList ++
    [Note.info ("Loaded " ++ Text.numeral recording.core.length ++
      " existing records")]
  match options.findDate files with
  | .error error => ⟨files, loaded, .error error⟩
  | .ok (date, dateNotes) =>
      let (trace, traceNotes) := options.findTrace files
      let window :=
        Window.ofRecording recording date options.start options.finish
      let repaired :=
        recording.repair options.logger trace window
          (options.findRoom recording)
      let (files, writeNotes, result) :=
        writeRepaired write options repaired files
      ⟨files,
        loaded ++ dateNotes ++ traceNotes ++ repaired.notes ++ writeNotes,
        result.map fun _ =>
          ⟨repaired.gaps, recording.core.length, repaired.recovered,
            options.outputs⟩⟩

/-- A repair run whose files are written in the given way. -/
def runRepairBy (write : TextWriter) (options : RepairOptions)
    (files : FileTree) : RepairOutcome :=
  let loading := [Note.info ("Loading " ++ shown options.input)]
  match files.readText options.input with
  | .error error => ⟨files, loading, .error (.unreadable options.input error)⟩
  | .ok content =>
      let outcome := repairRecording write options content files
      { outcome with notes := loading ++ outcome.notes }

def runRepair (options : RepairOptions) (files : FileTree) : RepairOutcome :=
  runRepairBy FileTree.writeText options files

end MeetingLog
