import MeetingLog.Table
import MeetingLog.Wire.Reading

/-!
# Routing

Sessions are opened and closed by publishing control messages, and transcripts
come back marked with the identity of their session. A table of routes says to
which participant each open session belongs. A session has a route from the
moment its opening is being published until it is asked to close.
-/

namespace MeetingLog.Wire

def transcriptSubject : String :=
  "stt.text.final"

def openingSubject : String :=
  "stt.session.open"

def closingSubject : String :=
  "stt.session.close"

def roomSubject (room : String) : String :=
  "room." ++ room ++ ".events"

/-- The subjects that the recorder of a room listens to. -/
def subscriptions (room : String) : List String :=
  [roomSubject room, transcriptSubject]

def ControlMessage.subject : ControlMessage → String
  | opening _ _ _ _ => openingSubject
  | closing _ => closingSubject

/-- The participants of the open sessions. -/
abbrev Routes : Type :=
  Table String String

namespace Routes

def none : Routes :=
  Table.empty

def beginOpening (routes : Routes) (sessionId participant : String) :
    Routes :=
  routes.insert sessionId participant

/-- The routes once the opening of a session has been published or has
failed. -/
def finishOpening (routes : Routes) (sessionId : String)
    (published : Bool) : Routes :=
  if published then routes else routes.erase sessionId

/-- The routes when a session is asked to close, whether that can be published
or not. -/
def close (routes : Routes) (sessionId : String) : Routes :=
  routes.erase sessionId

/-- The event that a transcript message becomes. Partial transcripts and those
of unknown sessions are dropped. -/
def route? (routes : Routes) (message : TranscriptMessage) :
    Option RoomEvent :=
  if message.isPartial then .none
  else
    (routes.get? message.sessionId).map fun participant =>
      .utterance participant message.text

/-- The event that the text of a transcript message becomes. -/
def receive? (routes : Routes) (text : String) : Option RoomEvent :=
  (TranscriptMessage.read text).toOption.bind routes.route?

end Routes

def receiveRoom? (text : String) : Option RoomEvent :=
  (RoomMessage.read text).toOption.bind RoomMessage.event?

def openingMessage (room sessionId participant : String)
    (settings : SpeechSettings) : ControlMessage :=
  .opening sessionId room participant settings

end MeetingLog.Wire
