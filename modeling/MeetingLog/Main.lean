import MeetingLog.CommandLine.Run
import Std.Time.DateTime.Timestamp

/-!
# The recorder's command line

The files that a command may touch are loaded into a file tree, the command is
run on the tree, and what has changed in the tree is stored again.
-/

namespace MeetingLog.CommandLine

open MeetingLog.Calendar
open MeetingLog.Files
open MeetingLog.Trace

/-- The moment some milliseconds after the beginning of 1970, in universal
time. -/
def momentOfStamp (milliseconds : Int) : Moment :=
  Moment.later milliseconds.toNat ⟨Date.epoch, ClockTime.midnight⟩

def readClock : IO Moment := do
  let stamp ← Std.Time.Timestamp.now
  return momentOfStamp stamp.toMillisecondsSinceUnixEpoch.val

/-- The variables of the environment that may hold settings, under their names
in capital letters or as they are. -/
def readEnvironment : IO (List (String × String)) := do
  let names := Configuration.keys.flatMap fun key => [key.toUpper, key]
  let found ← names.mapM fun name => do
    return (← IO.getEnv name).map fun value => (name, value)
  return found.filterMap id

/-- A path and the directories around it, the outermost first. The first
argument bounds how many directories there are. -/
def withOuter : Nat → Path → List Path
  | 0, path => [path]
  | bound + 1, path =>
      match parent? path with
      | none => [path]
      | some outer =>
          if outer = [] then [path] else withOuter bound outer ++ [path]

def loadPath (tree : FileTree) (path : Path) : IO FileTree := do
  let place := (← IO.currentDir) / shown path
  if path = [] then return tree
  else if ← place.isDir then return (tree.createDirectories path).1
  else if ← place.pathExists then
    let content ← IO.FS.readBinFile place
    let seconds := (← place.metadata).modified.sec
    let modified := (momentOfStamp (seconds * 1000)).date
    return tree.install path (.file content.toList modified)
  else return tree

/-- The paths that a command may read. -/
def Invocation.paths (invocation : Invocation) : List Path :=
  let configured :=
    match invocation.configuration with
    | none => []
    | some text =>
        let path := Text.bytesOf text
        path :: (Configuration.alternatives path).map fun found => found.1
  match invocation.command with
  | .record _ _ => configured
  | .repair request =>
      let options := request.options Configuration.standard
      let outputs := options.outputs
      configured ++ [options.input, options.tracePath, options.directory,
        outputs.text, outputs.records, outputs.statistics]

/-- The tree with everything that a command may read. -/
def Invocation.loadFiles (invocation : Invocation) (today : Date) :
    IO FileTree :=
  (invocation.paths.flatMap fun path => withOuter path.length path).foldlM
    loadPath (FileTree.empty today)

/-- Stores a file of the tree unless it was there before with the same
content. -/
def storePath (before after : FileTree) (path : Path) : IO Unit := do
  match after.readBytes path with
  | .ok content =>
      if (before.readBytes path).toOption ≠ some content then
        IO.FS.writeBinFile (shown path) ⟨content.toArray⟩
  | .error _ => return ()

/-- Stores what a command has changed. -/
def Invocation.storeFiles (invocation : Invocation)
    (before after : FileTree) : IO Unit := do
  match invocation.command with
  | .record _ _ => return ()
  | .repair request =>
      let options := request.options Configuration.standard
      let outputs := options.outputs
      if options.directory ≠ [] ∧ after.isDirectory options.directory then
        IO.FS.createDirAll (shown options.directory)
      storePath before after outputs.records
      storePath before after outputs.text
      storePath before after outputs.statistics

/-- Shows what a run of the program printed and noted. -/
def Outcome.show (outcome : Outcome) (now : Moment) : IO Unit := do
  for line in outcome.printed do
    IO.println line
  let entries := outcome.notes.map fun note => ⟨now, note⟩
  IO.print (String.ofList (write defaultLogger outcome.limit entries))
  match outcome.ending with
  | .succeeded => return ()
  | .failed chain => IO.eprint (failureText chain)
  | .misused => IO.eprintln (String.intercalate "\n" usageLines)

/-- Runs the program with its arguments and returns its exit code. -/
def execute (arguments : List String) : IO UInt32 := do
  let now ← readClock
  let environment ← readEnvironment
  let before ←
    match read arguments with
    | .error _ => pure (FileTree.empty now.date)
    | .ok invocation => invocation.loadFiles now.date
  let outcome := run arguments environment before
  match read arguments with
  | .error _ => pure ()
  | .ok invocation => invocation.storeFiles before outcome.files
  outcome.show now
  return UInt32.ofNat outcome.ending.code

end MeetingLog.CommandLine

/-- The recorder's command line. -/
def main (arguments : List String) : IO UInt32 :=
  MeetingLog.CommandLine.execute arguments
