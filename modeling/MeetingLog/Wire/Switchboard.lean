import MeetingLog.Wire.Routing

/-!
# The switchboard

The switchboard stands between a meeting and the outside. It publishes the
control messages of the sessions and turns what it receives into events of the
room. Publishing takes time, in which other things may happen: the opening of a
session and its closing therefore have a beginning and an end.
-/

namespace MeetingLog.Wire

/-- Something that happens at a switchboard. -/
inductive SwitchboardStep where
  | beginOpening (sessionId participant : String) (settings : SpeechSettings)
  /-- The opening of a session was published, or could not be. -/
  | finishOpening (sessionId : String) (published : Bool)
  | beginClosing (sessionId : String)
  /-- The closing of a session was published, or could not be. -/
  | finishClosing (sessionId : String) (published : Bool)
  /-- A text comes in that should be a transcript message. -/
  | transcript (text : String)
  /-- A text comes in that should be a room message. -/
  | room (text : String)
  deriving DecidableEq, Repr

structure Switchboard where
  room : String
  routes : Routes
  /-- The messages given out to be published, the oldest first. -/
  outgoing : List ControlMessage
  /-- The events passed on to the meeting, the oldest first. -/
  events : List RoomEvent

namespace Switchboard

def new (room : String) : Switchboard :=
  ⟨room, Routes.none, [], []⟩

def publish (switchboard : Switchboard) (message : ControlMessage) :
    Switchboard :=
  { switchboard with outgoing := switchboard.outgoing ++ [message] }

def passOn (switchboard : Switchboard) (event : Option RoomEvent) :
    Switchboard :=
  { switchboard with events := switchboard.events ++ event.toList }

def perform (switchboard : Switchboard) :
    SwitchboardStep → Switchboard
  | .beginOpening sessionId participant settings =>
      { switchboard with
          routes := switchboard.routes.beginOpening sessionId participant
        }.publish
          (openingMessage switchboard.room sessionId participant settings)
  | .finishOpening sessionId published =>
      { switchboard with
        routes := switchboard.routes.finishOpening sessionId published }
  | .beginClosing sessionId =>
      { switchboard with routes := switchboard.routes.close sessionId
        }.publish (.closing sessionId)
  | .finishClosing _ _ => switchboard
  | .transcript text => switchboard.passOn (switchboard.routes.receive? text)
  | .room text => switchboard.passOn (receiveRoom? text)

/-- A new switchboard after some steps. -/
def after (room : String) (steps : List SwitchboardStep) : Switchboard :=
  steps.foldl perform (new room)

end Switchboard

end MeetingLog.Wire
