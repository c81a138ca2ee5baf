import MeetingLog.Configuration.Source
import MeetingLog.Meeting.Basic
import MeetingLog.OutputFormat
import MeetingLog.Speech

/-!
# Configurations

A configuration says how meetings are recorded. What no setting gives has a
default; a value that is not understood is noted and replaced by its default.
-/

namespace MeetingLog

open MeetingLog.Configuration
open MeetingLog.Files
open MeetingLog.Text
open MeetingLog.Trace

/-- How meetings are recorded. -/
structure Configuration where
  provider : Provider
  language : String
  format : OutputFormat
  /-- Where the files of a log are put. -/
  directory : Path
  statistics : Bool
  /-- After how many minutes of silence a group is paused; zero means never. -/
  idleMinutes : UInt64
  /-- The address of the server that carries the messages. -/
  server : String
  /-- Whether notes of the level `debug` are shown. -/
  isVerbose : Bool
  deriving DecidableEq, Repr

namespace Configuration

/-- The configuration without any settings. -/
def standard : Configuration where
  provider := .deepgram
  language := "de"
  format := .both
  directory := bytesOf "protocols"
  statistics := true
  idleMinutes := 5
  server := "nats://localhost:4222"
  isVerbose := false

/-- `meansTrue value` means that a value turns something on. -/
def meansTrue (value : String) : Bool :=
  sameAsciiLetters (trim value) "true"

def minutesOf? (value : String) : Option UInt64 :=
  let letters := trimLetters value.toList
  let digits :=
    match letters with
    | '+' :: digits => digits
    | digits => digits
  if digits ≠ [] ∧ digits.all fun c => (digitValue? c).isSome then
    let number := valueOfDigits digits
    if number < UInt64.size then some (UInt64.ofNat number) else none
  else none

/-- What is noted about a value that should give a number of minutes. -/
def minutesNotes (value : String) : List Note :=
  match minutesOf? value with
  | some _ => []
  | none =>
      [Note.warning ("Invalid idle timeout '" ++ value ++
        "', defaulting to " ++ numeral standard.idleMinutes.toNat ++
          " minutes")]

def textOf? (settings : Settings) (key : String) :
    Except ConfigurationError (Option String) :=
  match settings.get? key with
  | none => .ok none
  | some .absent => .ok none
  | some (.plain text) => .ok (some text)
  | some .composed => .error (.composedValue key)

def keys : List String :=
  ["stt_provider", "stt_language", "output_format", "protocols_dir",
    "enable_statistics", "idle_timeout_minutes", "nats_url", "debug"]

/-- The texts that settings give for the keys that are used. -/
structure Texts where
  provider : Option String
  language : Option String
  format : Option String
  directory : Option String
  statistics : Option String
  idleMinutes : Option String
  server : Option String
  isVerbose : Option String
  deriving DecidableEq, Repr

def Texts.ofSettings (settings : Settings) :
    Except ConfigurationError Texts := do
  let provider ← textOf? settings "stt_provider"
  let language ← textOf? settings "stt_language"
  let format ← textOf? settings "output_format"
  let directory ← textOf? settings "protocols_dir"
  let statistics ← textOf? settings "enable_statistics"
  let idleMinutes ← textOf? settings "idle_timeout_minutes"
  let server ← textOf? settings "nats_url"
  let isVerbose ← textOf? settings "debug"
  return ⟨provider, language, format, directory, statistics, idleMinutes,
    server, isVerbose⟩

def ofTexts (texts : Texts) : Configuration where
  provider :=
    (texts.provider.map Provider.choose).getD standard.provider
  language := texts.language.getD standard.language
  format := (texts.format.map OutputFormat.choose).getD standard.format
  directory := (texts.directory.map bytesOf).getD standard.directory
  statistics := (texts.statistics.map meansTrue).getD standard.statistics
  idleMinutes := (texts.idleMinutes.bind minutesOf?).getD standard.idleMinutes
  server := texts.server.getD standard.server
  isVerbose := (texts.isVerbose.map meansTrue).getD standard.isVerbose

def notesOn (texts : Texts) : List Note :=
  (texts.idleMinutes.map minutesNotes).getD [] ++
    (texts.provider.map Provider.notes).getD [] ++
      (texts.format.map OutputFormat.notes).getD []

def ofSettings (settings : Settings) :
    Except ConfigurationError (Configuration × List Note) :=
  (Texts.ofSettings settings).map fun texts => (ofTexts texts, notesOn texts)

/-- The configuration that pairs of a path and a value give. -/
def ofPairs (pairs : List (String × String)) :
    Except ConfigurationError (Configuration × List Note) :=
  (settingsOfPairs pairs).bind ofSettings

/-- The configuration that a file, if a path is given, and the environment give
together. -/
def load (files : FileTree) (path : Option String)
    (environment : List (String × String)) :
    Except ConfigurationError (Configuration × List Note) := do
  let settings ←
    match path with
    | none => .ok Table.empty
    | some path => settingsOfFile files (bytesOf path)
  ofSettings (withEnvironment settings environment)

/-- The options of the meetings that are recorded with a configuration. A
silent group is looked for once a minute, and what is in flight at the end is
given ten seconds. -/
def meetingOptions (configuration : Configuration) : MeetingOptions where
  idleTimeout :=
    if configuration.idleMinutes = 0 then none
    else some (configuration.idleMinutes.toNat * 60000)
  checkInterval := 60000
  grace := 10000
  settings := configuration.provider.settings configuration.language

/-- The least grave level of the notes that are shown. -/
def limit (configuration : Configuration) : Level :=
  if configuration.isVerbose then .debug else .info

end Configuration

end MeetingLog
