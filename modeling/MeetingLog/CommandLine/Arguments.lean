import MeetingLog.Calendar.Clock
import MeetingLog.Calendar.Date

/-!
# Arguments

The arguments of the recorder name a command, with options and words. An option
is given by its name with two dashes in front, and its value is the next
argument or stands behind an equals sign. The path of a configuration file may
be given in front of the command or behind it. Arguments are read from the
first to the last, and the first one that is out of place, or that asks for
help, decides.
-/

namespace MeetingLog.CommandLine

open MeetingLog.Calendar

/-- Why arguments are not a command. -/
inductive Halt where
  | misuse
  | help
  | version
  deriving DecidableEq, Repr

/-! ## Options and words -/

/-- What is understood behind a command. -/
structure Grammar where
  /-- The options, each with the test that its value has to pass. -/
  options : List (String × (String → Bool))
  /-- How many words there may be. -/
  wordLimit : Nat
  /-- Whether the version can be asked for. -/
  tellsVersion : Bool

/-- What was given in front of a command or behind it. -/
structure Given where
  options : List (String × String)
  words : List String
  deriving DecidableEq, Repr

namespace Given

def nothing : Given :=
  ⟨[], []⟩

def option? (given : Given) (name : String) : Option String :=
  given.options.lookup name

end Given

/-- What stands at the front of arguments. -/
inductive Argument where
  | option (name value : String)
  | word (text : String)
  /-- Everything behind the divider is a word. -/
  | divider
  deriving DecidableEq, Repr

/-- `beginsOption argument` means that an argument cannot be the value of an
option in front of it. -/
def beginsOption (argument : String) : Bool :=
  argument.toList.head? == some '-' && argument != "-"

def takeOption (grammar : Grammar) (name : String) (value : Option String)
    (others : List String) : Except Halt (Argument × List String) :=
  if (grammar.options.lookup name).isSome then
    match value, others with
    | some value, others => .ok (.option name value, others)
    | none, value :: others =>
        if beginsOption value then .error .misuse
        else .ok (.option name value, others)
    | none, [] => .error .misuse
  else if value.isSome then .error .misuse
  else if name = "help" then .error .help
  else if name = "version" ∧ grammar.tellsVersion then .error .version
  else .error .misuse

/-- An argument with one dash in front: the first letter behind it decides. -/
def takeShort (grammar : Grammar) (letters : List Char) : Halt :=
  match letters with
  | 'h' :: _ => .help
  | 'V' :: _ => if grammar.tellsVersion then .version else .misuse
  | _ => .misuse

/-- The name in front of an equals sign and the value behind it. -/
def splitEquals (letters : List Char) : String × Option String :=
  match letters.span fun c => c ≠ '=' with
  | (name, []) => (String.ofList name, none)
  | (name, _ :: value) => (String.ofList name, some (String.ofList value))

/-- The first of some arguments, and those behind it. -/
def takeArgument (grammar : Grammar) (argument : String)
    (others : List String) : Except Halt (Argument × List String) :=
  match argument.toList with
  | ['-', '-'] => .ok (.divider, others)
  | '-' :: '-' :: letters =>
      let (name, value) := splitEquals letters
      takeOption grammar name value others
  | ['-'] => .ok (.word argument, others)
  | '-' :: letters => .error (takeShort grammar letters)
  | _ => .ok (.word argument, others)

def Given.withOption (grammar : Grammar) (given : Given)
    (name value : String) : Except Halt Given :=
  let accepted :=
    (grammar.options.lookup name).any fun accepts => accepts value
  if accepted ∧ (given.option? name).isNone then
    .ok { given with options := given.options ++ [(name, value)] }
  else .error .misuse

def Given.withWord (grammar : Grammar) (given : Given) (word : String) :
    Except Halt Given :=
  if given.words.length < grammar.wordLimit then
    .ok { given with words := given.words ++ [word] }
  else .error .misuse

/-- Everything that arguments give. The first argument bounds their number. -/
def readGiven (grammar : Grammar) :
    Nat → Given → List String → Except Halt Given
  | _, given, [] => .ok given
  | 0, _, _ :: _ => .error .misuse
  | bound + 1, given, argument :: others => do
      match ← takeArgument grammar argument others with
      | (.option name value, others) =>
          let given ← given.withOption grammar name value
          readGiven grammar bound given others
      | (.word text, others) =>
          let given ← given.withWord grammar text
          readGiven grammar bound given others
      | (.divider, others) =>
          others.foldlM (fun given word => given.withWord grammar word) given

/-- Everything that arguments give up to the first word, the word, and the
arguments behind it. The first argument bounds the number of arguments. -/
def readFront (grammar : Grammar) :
    Nat → Given → List String → Except Halt (Given × String × List String)
  | _, _, [] => .error .misuse
  | 0, _, _ :: _ => .error .misuse
  | bound + 1, given, argument :: others => do
      match ← takeArgument grammar argument others with
      | (.option name value, others) =>
          let given ← given.withOption grammar name value
          readFront grammar bound given others
      | (.word text, others) => return (given, text, others)
      | (.divider, _) => .error .misuse

/-! ## Commands -/

/-- What a repair is asked for. -/
structure RepairRequest where
  input : String
  trace : Option String
  outputDirectory : Option String
  date : Option Date
  start : Option ClockTime
  finish : Option ClockTime
  room : Option String
  deriving DecidableEq, Repr

/-- What the recorder can be asked to do. -/
inductive Command where
  | record (room : String) (server : Option String)
  | repair (request : RepairRequest)
  deriving DecidableEq, Repr

/-- A command and the path of a configuration file. -/
structure Invocation where
  configuration : Option String
  command : Command
  deriving DecidableEq, Repr

/-- Any text may be given. -/
def anyText (_ : String) : Bool :=
  true

/-- A path must not be empty. -/
def isPath (value : String) : Bool :=
  value != ""

def timeOf? (value : String) : Option ClockTime :=
  ClockTime.readArgument? value.toList

def dateOf? (value : String) : Option Date :=
  Date.readArgument? value.toList

/-- What is understood in front of a command. -/
def frontGrammar : Grammar where
  options := [("config", anyText)]
  wordLimit := 0
  tellsVersion := true

/-- What is understood behind the command to record. -/
def recordGrammar : Grammar where
  options := [("config", anyText), ("nats-url", anyText)]
  wordLimit := 1
  tellsVersion := false

/-- What is understood behind the command to repair. -/
def repairGrammar : Grammar where
  options :=
    [("config", anyText), ("input", isPath), ("trace", isPath),
      ("output-dir", isPath), ("date", fun value => (dateOf? value).isSome),
      ("start", fun value => (timeOf? value).isSome),
      ("end", fun value => (timeOf? value).isSome), ("room", anyText)]
  wordLimit := 0
  tellsVersion := false

def recordOf (given : Given) : Except Halt Command :=
  match given.words with
  | [room] => .ok (.record room (given.option? "nats-url"))
  | _ => .error .misuse

def repairOf (given : Given) : Except Halt Command :=
  match given.option? "input" with
  | none => .error .misuse
  | some input =>
      .ok <| .repair
        { input := input
          trace := given.option? "trace"
          outputDirectory := given.option? "output-dir"
          date := (given.option? "date").bind dateOf?
          start := (given.option? "start").bind timeOf?
          finish := (given.option? "end").bind timeOf?
          room := given.option? "room" }

/-- A command whose name has been read. A configuration file given behind it
goes before one given in front. -/
def readCommand (front : Given) (name : String) (others : List String) :
    Except Halt Invocation := do
  let complete (grammar : Grammar)
      (commandOf : Given → Except Halt Command) : Except Halt Invocation := do
    let given ← readGiven grammar others.length .nothing others
    let command ← commandOf given
    return ⟨(given.option? "config").or (front.option? "config"), command⟩
  if name = "record" then complete recordGrammar recordOf
  else if name = "repair" then complete repairGrammar repairOf
  else if name = "help" then
    match others with
    | [] => .error .help
    | [topic] =>
        if topic = "record" ∨ topic = "repair" ∨ topic = "help" then
          .error .help
        else .error .misuse
    | _ => .error .misuse
  else .error .misuse

def read (arguments : List String) : Except Halt Invocation := do
  let (front, name, others) ←
    readFront frontGrammar arguments.length .nothing arguments
  readCommand front name others

end MeetingLog.CommandLine
