import MeetingLog.CommandLine.Arguments
import MeetingLog.Configuration.Basic
import MeetingLog.Repair.Run

/-!
# Commands

A command is run on a file tree and the variables of the environment. The
configuration is loaded first, and what is noted about it is not shown, because
notes are only shown once it says which of them to show.

A recording needs a server that carries its messages. Commands are run without
a network, so a recording comes to its end when it wants to connect.
-/

namespace MeetingLog.CommandLine

open MeetingLog.Files
open MeetingLog.Trace

/-- The name of the program and its version. -/
def versionText : String :=
  "protocol-recorder 0.1.0"

/-- How the program is used. -/
def usageLines : List String :=
  ["Usage: protocol-recorder [--config FILE] COMMAND",
    "",
    "Commands:",
    "  record ROOM [--nats-url URL]",
    "  repair --input FILE [--trace FILE] [--output-dir DIRECTORY]",
    "         [--date DATE] [--start TIME] [--end TIME] [--room ROOM]"]

/-- How a run of the program ended. -/
inductive Ending where
  | succeeded
  /-- The texts of an error and of what caused it, the outermost first. -/
  | failed (chain : List String)
  /-- The arguments were not understood. -/
  | misused
  deriving DecidableEq, Repr

/-- What a run of the program leads to. -/
structure Outcome where
  files : FileTree
  printed : List String
  notes : List Note
  /-- The least grave level of the notes that are shown. -/
  limit : Level
  ending : Ending

/-- The exit code of a run. -/
def Ending.code : Ending → Nat
  | succeeded => 0
  | failed _ => 1
  | misused => 2

/-! ## Errors -/

def indentLines (width : Nat) (text : String) : String :=
  String.ofList <| text.toList.flatMap fun c =>
    if c = '\n' then '\n' :: List.replicate width ' ' else [c]

/-- The lines that tell the causes of an error. They are numbered if there are
several. -/
def causeLines (causes : List String) : List String :=
  match causes with
  | [cause] => ["    " ++ indentLines 4 cause]
  | causes =>
      (causes.zipIdx).map fun (cause, number) =>
        let digits := Text.decimal number
        String.ofList (List.replicate (5 - digits.length) ' ' ++ digits) ++
          ": " ++ indentLines 7 cause

/-- What is written about a failure. -/
def failureText (chain : List String) : String :=
  match chain with
  | [] => "Error: \n"
  | [error] => "Error: " ++ error ++ "\n"
  | error :: causes =>
      "Error: " ++ error ++ "\n\nCaused by:\n" ++
        String.intercalate "\n" (causeLines causes) ++ "\n"

/-! ## Running -/

/-- What is reported by a connection when there is no network. -/
def unreachableText : String :=
  "IO error: Network is unreachable (os error 101)"

/-- What is reported when the server of a recording cannot be reached, with its
cause. -/
def connectionChain : List String :=
  ["Failed to connect to NATS", unreachableText]

/-- A recording of a room, which ends with the attempt to connect. -/
def runRecord (configuration : Configuration) (server : Option String)
    (files : FileTree) : Outcome where
  files := files
  printed := []
  notes :=
    [Note.info ("Starting protocol agent with config: STT=" ++
        configuration.provider.name ++ ", Format=" ++
          configuration.format.name),
      Note.info ("Connecting to NATS at " ++
        server.getD configuration.server)]
  limit := configuration.limit
  ending := .failed connectionChain

def RepairRequest.options (request : RepairRequest)
    (configuration : Configuration) : RepairOptions where
  input := Text.bytesOf request.input
  trace := request.trace.map Text.bytesOf
  outputDirectory := request.outputDirectory.map Text.bytesOf
  date := request.date
  start := request.start
  finish := request.finish
  room := request.room
  statistics := configuration.statistics
  logger := defaultLogger

def reportNotes (report : RepairReport) : List Note :=
  [Note.info ("Repair complete: " ++ Text.numeral report.gaps.length ++
      " gaps, " ++ Text.numeral report.existing ++ " existing records, " ++
        Text.numeral report.recovered ++ " recovered"),
    Note.info ("Repaired protocol: " ++ shown report.outputs.records)]

def runRequest (configuration : Configuration) (request : RepairRequest)
    (files : FileTree) : Outcome :=
  let outcome := runRepair (request.options configuration) files
  let (notes, ending) : List Note × Ending :=
    match outcome.result with
    | .ok report => (reportNotes report, .succeeded)
    | .error error => ([], .failed error.chain)
  { files := outcome.files
    printed := []
    notes := outcome.notes ++ notes
    limit := configuration.limit
    ending := ending }

/-- A command with its configuration. -/
def Invocation.run (invocation : Invocation)
    (environment : List (String × String)) (files : FileTree) : Outcome :=
  match Configuration.load files invocation.configuration environment with
  | .error error => ⟨files, [], [], .info, .failed [error.message]⟩
  | .ok (configuration, _) =>
      match invocation.command with
      | .record _ server => runRecord configuration server files
      | .repair request => runRequest configuration request files

def run (arguments : List String) (environment : List (String × String))
    (files : FileTree) : Outcome :=
  match read arguments with
  | .error .misuse => ⟨files, [], [], .info, .misused⟩
  | .error .help => ⟨files, usageLines, [], .info, .succeeded⟩
  | .error .version => ⟨files, [versionText], [], .info, .succeeded⟩
  | .ok invocation => invocation.run environment files

end MeetingLog.CommandLine
