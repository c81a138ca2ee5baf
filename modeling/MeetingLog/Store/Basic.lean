import MeetingLog.Files.Tree
import MeetingLog.OutputFormat
import MeetingLog.Record.Line
import MeetingLog.Record.TextForm
import MeetingLog.Statistics.Summary
import MeetingLog.Trace.Line

/-!
# The store

The store owns the files of one log. It is created, then recording, and at last
finalized; only while it is recording are records taken. A record goes into the
statistics, then to the text file and then to the record file. What has been
done when an operation fails stays done.
-/

namespace MeetingLog

open MeetingLog.Calendar
open MeetingLog.Files
open MeetingLog.Trace

/-- Why the store refused something or failed. -/
inductive StoreError where
  | notOpen
  /-- Header and footer are written by the store itself. -/
  | framing (type : RecordType)
  | files (path : Path) (error : FileError)
  deriving DecidableEq, Repr

namespace StoreError

def message : StoreError → String
  | notOpen => "protocol store is not open"
  | framing type => type.name ++ " records are written by the store itself"
  | files path error =>
      "I/O error on " ++ shown path ++ ": " ++ error.message

/-- The texts of an error and of what caused it, the outermost first. -/
def chain (error : StoreError) : List String :=
  match error with
  | notOpen => [error.message]
  | framing _ => [error.message]
  | files _ cause => [error.message, cause.message]

end StoreError

/-- The paths of the three files of a log. -/
structure LogPaths where
  text : Path
  records : Path
  statistics : Path
  deriving DecidableEq, Repr

namespace LogPaths

/-- The files in a directory whose names begin with a common text. -/
def ofBase (directory : Path) (base : String) : LogPaths :=
  ⟨join directory (Text.bytesOf (base ++ ".txt")),
    join directory (Text.bytesOf (base ++ ".jsonl")),
    join directory (Text.bytesOf (base ++ "_stats.json"))⟩

end LogPaths

/-- The text with which the names of the files of a meeting begin. -/
def baseName (room : String) (started : Moment) : String :=
  "protocol_" ++ room ++ "_" ++
    String.ofList (started.date.compactLetters) ++ "_" ++
    String.ofList (Text.fixedDigits 2 started.time.hour.val ++
      Text.fixedDigits 2 started.time.minute.val ++
      Text.fixedDigits 2 started.time.second.val)

/-- What is fixed for the lifetime of a store. -/
structure StoreOptions where
  room : String
  provider : String
  format : OutputFormat
  statistics : Bool
  directory : Path
  started : Moment
  deriving DecidableEq, Repr

namespace StoreOptions

def paths (options : StoreOptions) : LogPaths :=
  LogPaths.ofBase options.directory
    (baseName options.room options.started)

def header (options : StoreOptions) : Header :=
  ⟨options.room, options.started.time, options.provider⟩

def openingText (options : StoreOptions) : String :=
  openingBlock options.started options.room options.provider

end StoreOptions

/-- Whether the store takes records. -/
inductive StorePhase where
  | created
  | recording
  | finalized
  deriving DecidableEq, Repr

/-- A file that is being written: the path by which it was created, and its
place. -/
structure OpenFile where
  path : Path
  place : Path
  deriving DecidableEq, Repr

structure Store where
  options : StoreOptions
  phase : StorePhase
  text : Option OpenFile
  records : Option OpenFile
  statistics : Statistics

/-- What an operation of the store leads to. -/
structure StoreStep where
  store : Store
  files : FileTree
  notes : List Note
  result : Except StoreError Unit

namespace StoreStep

/-- A step that changes nothing and succeeds. -/
def skip (store : Store) (files : FileTree) : StoreStep :=
  ⟨store, files, [], .ok ()⟩

/-- A step followed by another one, which is only done if the first
succeeds. -/
def andThen (first : StoreStep) (second : Store → FileTree → StoreStep) :
    StoreStep :=
  match first.result with
  | .error _ => first
  | .ok () =>
      let next := second first.store first.files
      { next with notes := first.notes ++ next.notes }

end StoreStep

def OpenFile.write (file : OpenFile) (files : FileTree) (text : String) :
    Except StoreError FileTree :=
  match files.append file.place (Text.bytesOf text) with
  | .error error => .error (.files file.path error)
  | .ok written => .ok written

def OpenFile.start (files : FileTree) (path : Path) (text : String) :
    FileTree × Except StoreError OpenFile :=
  match files.createFile path with
  | .error error => (files, .error (.files path error))
  | .ok (created, place) =>
      let file : OpenFile := ⟨path, place⟩
      match file.write created text with
      | .error error => (created, .error error)
      | .ok written => (written, .ok file)

def writeArtifact (write : TextWriter) (files : FileTree) (path : Path)
    (statistics : Statistics) : FileTree × Except StoreError Unit :=
  match write files path statistics.artifact with
  | (written, .error error) => (written, .error (.files path error))
  | (written, .ok ()) => (written, .ok ())

namespace Store

/-- A store that has no files yet. -/
def new (options : StoreOptions) : Store where
  options := options
  phase := .created
  text := none
  records := none
  statistics := Statistics.new options.room options.started.time

/-- `isOpen store` means that the store takes records. -/
def isOpen (store : Store) : Bool :=
  store.phase == .recording

/-- The directory of the files created. -/
def prepare (store : Store) (files : FileTree) : StoreStep :=
  match files.createDirectories store.options.directory with
  | (created, .error error) =>
      ⟨store, created, [],
        .error (.files store.options.directory error)⟩
  | (created, .ok ()) => ⟨store, created, [], .ok ()⟩

/-- The text file created, if the format asks for it. -/
def openText (store : Store) (files : FileTree) : StoreStep :=
  if store.options.format.writesText then
    match OpenFile.start files store.options.paths.text
        store.options.openingText with
    | (created, .error error) => ⟨store, created, [], .error error⟩
    | (created, .ok file) =>
        ⟨{ store with text := some file }, created, [], .ok ()⟩
  else .skip store files

/-- The record file created, if the format asks for it. -/
def openRecords (store : Store) (files : FileTree) : StoreStep :=
  if store.options.format.writesRecords then
    match OpenFile.start files store.options.paths.records
        ((Record.header store.options.header).line ++ "\n") with
    | (created, .error error) => ⟨store, created, [], .error error⟩
    | (created, .ok file) =>
        ⟨{ store with records := some file }, created, [], .ok ()⟩
  else .skip store files

def beginRecording (store : Store) (files : FileTree) : StoreStep :=
  ⟨{ store with phase := .recording }, files,
    [Note.info ("Protocol files created: protocol_" ++
      store.options.room)], .ok ()⟩

/-- Creates the files and makes the store ready for records. Once that has
succeeded it does nothing. -/
def start (store : Store) (files : FileTree) : StoreStep :=
  if store.phase = .created then
    (((store.prepare files).andThen openText).andThen openRecords).andThen
      beginRecording
  else .skip store files

def writeText (text : String) (store : Store) (files : FileTree) :
    StoreStep :=
  match store.text with
  | none => .skip store files
  | some file =>
      match file.write files text with
      | .error error => ⟨store, files, [], .error error⟩
      | .ok written => ⟨store, written, [], .ok ()⟩

def writeRecord (record : Record) (store : Store) (files : FileTree) :
    StoreStep :=
  match store.records with
  | none => .skip store files
  | some file =>
      match file.write files (record.line ++ "\n") with
      | .error error => ⟨store, files, [], .error error⟩
      | .ok written => ⟨store, written, [], .ok ()⟩

def appendCore (store : Store) (files : FileTree) (record : CoreRecord) :
    StoreStep :=
  if store.phase = .recording then
    let counted :=
      { store with statistics := store.statistics.add record }
    (counted.writeText record.textForm files).andThen
      (writeRecord (.core record))
  else ⟨store, files, [], .error .notOpen⟩

/-- Takes a record, unless it is a header or a footer. -/
def append (store : Store) (files : FileTree) (record : Record) :
    StoreStep :=
  match record with
  | .header _ => ⟨store, files, [], .error (.framing .header)⟩
  | .footer _ => ⟨store, files, [], .error (.framing .footer)⟩
  | .core entry => store.appendCore files entry

def writeStatistics (store : Store) (files : FileTree) : StoreStep :=
  if store.options.statistics then
    let path := store.options.paths.statistics
    match writeArtifact FileTree.writeText files path store.statistics with
    | (written, .error error) => ⟨store, written, [], .error error⟩
    | (written, .ok ()) =>
        ⟨store, written,
          [Note.info ("Statistics saved to: " ++ shown path)], .ok ()⟩
  else .skip store files

/-- The open files forgotten. -/
def closeFiles (store : Store) : Store :=
  { store with text := none, records := none }

/-- Writes the closing block, the footer and the statistics, and takes no more
records whether that succeeds or not. It does nothing unless the store is
recording. -/
def finalize (store : Store) (files : FileTree) (ended : Moment) :
    StoreStep :=
  if store.phase = .recording then
    let ending :=
      { store with
        phase := .finalized
        statistics :=
          { store.statistics with endedAt := some ended.time } }
    let shown :=
      if store.options.statistics then some ending.statistics else none
    let step :=
      ((ending.writeText (closingBlock ended shown) files).andThen
        (writeRecord (.footer ⟨ended.time⟩))).andThen writeStatistics
    { step with store := step.store.closeFiles }
  else
    ⟨store, files,
      [Note.debug "finalize on a store that is not open, ignoring"], .ok ()⟩

end Store

/-- A way to give records to a store. On a medium that fails, the store refuses
some of them. -/
abbrev Recorder : Type :=
  Store → FileTree → CoreRecord → StoreStep

end MeetingLog
