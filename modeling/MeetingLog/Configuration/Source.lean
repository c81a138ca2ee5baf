import MeetingLog.Configuration.Setting
import MeetingLog.Configuration.Yaml
import MeetingLog.Files.Tree
import MeetingLog.Json.Reader
import MeetingLog.Number.Plain
import MeetingLog.Text.LetterCase
import MeetingLog.Toml.Document

/-!
# Where settings come from

Settings are read from a file or given as pairs, and the variables of the
environment go before those of the file. A file may be missing or unreadable,
but if there is one it has to be well-formed.
-/

namespace MeetingLog.Configuration

open MeetingLog.Files
open MeetingLog.Number
open MeetingLog.Text

/-- Why there is no configuration. -/
inductive ConfigurationError where
  | notPath (name : String)
  /-- A file is not well-formed. -/
  | malformedFile (path : Path)
  /-- The value of a key that is used has parts. -/
  | composedValue (key : String)
  deriving DecidableEq, Repr

namespace ConfigurationError

def message : ConfigurationError → String
  | notPath name => "not a path of a setting: " ++ name
  | malformedFile path => "malformed configuration file " ++ shown path
  | composedValue key => "expected a plain value for " ++ key

end ConfigurationError

/-! ## Files -/

/-- How a configuration file is written. -/
inductive FileKind where
  | toml
  | json
  | yaml
  deriving DecidableEq, Repr

/-- The extensions of configuration files, in the order in which they are
tried. -/
def extensions : List (Path × FileKind) :=
  [(bytesOf "toml", .toml), (bytesOf "json", .json), (bytesOf "yaml", .yaml),
    (bytesOf "yml", .yaml)]

def kindOf? (path : Path) : Option FileKind :=
  ((lastName? path).bind extensionOf?).bind fun ending =>
    extensions.lookup ending

/-- The files that are looked for when a path itself leads to none. -/
def alternatives (path : Path) : List (Path × FileKind) :=
  if (lastName? path).isSome then
    extensions.map fun (ending, kind) =>
      (withoutTrailing path ++ dot :: ending, kind)
  else []

/-- The configuration file that a path means: the path itself if there is a
file, or else the first one with an extension added to it. -/
def findFile? (files : FileTree) (path : Path) :
    Option (Path × FileKind) :=
  if files.isFile path then (kindOf? path).map fun kind => (path, kind)
  else (alternatives path).find? fun candidate => files.isFile candidate.1

def numberText : Json.Numeral → String
  | .natural value =>
      if value.toNat < 9223372036854775808 then numeral value.toNat
      else
        match double.ofNat value.toNat with
        | some size => plainText false double size
        | none => numeral value.toNat
  | .negative size => "-" ++ numeral size
  | .real isNegative format size => plainText isNegative format size

def settingOfJson : Json.Value → Setting
  | .null => .absent
  | .boolean value => .plain (if value then "true" else "false")
  | .number value => .plain (numberText value)
  | .text value => .plain value
  | .list _ => .composed
  | .object _ => .composed

def settingOfToml : Toml.Value → Setting
  | .plain text => .plain text
  | .list _ => .composed
  | .table _ _ => .composed

def readFile? (kind : FileKind) (text : String) :
    Option (List (String × Setting)) :=
  match kind with
  | .toml =>
      (Toml.read? text).map fun members =>
        members.map fun (key, value) => (key, settingOfToml value)
  | .json =>
      match Json.Value.read text with
      | .ok (.object members) =>
          some (members.map fun (key, value) => (key, settingOfJson value))
      | _ => none
  | .yaml => Yaml.read? text

/-- The settings of the configuration file that a path means; there are none if
the file is missing or cannot be read. -/
def settingsOfFile (files : FileTree) (path : Path) :
    Except ConfigurationError Settings :=
  match findFile? files path with
  | none => .ok Table.empty
  | some (found, kind) =>
      match files.readText found with
      | .error _ => .ok Table.empty
      | .ok text =>
          match readFile? kind text with
          | none => .error (.malformedFile found)
          | some given => .ok (Settings.assignAll Table.empty given)

/-! ## Environment and pairs -/

/-- The settings with those that the environment gives put over them. The names
of variables are read in small letters. -/
def withEnvironment (settings : Settings)
    (environment : List (String × String)) : Settings :=
  settings.assignAll (environment.map fun (name, value) =>
    (toSmallLetters name, .plain value))

/-- The settings that pairs of a path and a value give. -/
def settingsOfPairs (pairs : List (String × String)) :
    Except ConfigurationError Settings :=
  pairs.foldlM
    (fun settings (name, value) =>
      match KeyPath.read? name with
      | none => .error (.notPath name)
      | some path => .ok (settings.assign path (.plain value)))
    Table.empty

end MeetingLog.Configuration
