import MeetingLog.Text.Blank
import MeetingLog.Text.LetterCase
import MeetingLog.Trace.Line

/-!
# Speech recognition

Speech is recognised by one of three providers. A provider is chosen by name
and given settings whenever a session is opened.
-/

namespace MeetingLog

open MeetingLog.Trace

/-- Who recognises speech. -/
inductive Provider where
  | deepgram
  | speechmatics
  | openai
  deriving DecidableEq, Repr

namespace Provider

def name : Provider → String
  | deepgram => "deepgram"
  | speechmatics => "speechmatics"
  | openai => "openai"

def ofName? (name : String) : Option Provider :=
  if name = "deepgram" then some deepgram
  else if name = "speechmatics" then some speechmatics
  else if name = "openai" then some openai
  else none

@[simp]
theorem ofName?_name (provider : Provider) :
    ofName? provider.name = some provider := by
  cases provider <;> decide

/-- A name as it is compared: in small letters, without blank characters at its
ends. -/
def comparedName (value : String) : String :=
  Text.toSmallLetters (Text.trim value)

/-- The provider that a value asks for; an unknown one asks for the first. -/
def choose (value : String) : Provider :=
  (ofName? (comparedName value)).getD deepgram

/-- What is noted about a value that asks for a provider. -/
def notes (value : String) : List Note :=
  match ofName? (comparedName value) with
  | some _ => []
  | none =>
      [Note.warning ("Unknown STT provider '" ++ comparedName value ++
        "', defaulting to 'deepgram'")]

end Provider

/-- What a provider is told when a session is opened. -/
structure SpeechSettings where
  provider : Provider
  language : String
  model : Option String
  smartFormat : Bool
  noDelay : Bool
  endpointing : Option UInt32
  operatingPoint : Option String
  enableEntities : Bool
  deriving DecidableEq, Repr

def Provider.settings (provider : Provider) (language : String) :
    SpeechSettings :=
  let base : SpeechSettings :=
    ⟨provider, language, none, false, false, none, none, false⟩
  match provider with
  | deepgram =>
      { base with
        model := some "nova-3"
        smartFormat := true
        noDelay := true
        endpointing := some 500 }
  | speechmatics =>
      { base with
        operatingPoint := some "enhanced"
        enableEntities := true }
  | openai => base

end MeetingLog
