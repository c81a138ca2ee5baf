/-!
# Room events

What the recorder hears about the participants of a room.
-/

namespace MeetingLog

/-- Something that happened in the room. -/
inductive RoomEvent where
  | joined (identity : String) (name : Option String)
  | left (identity : String)
  /-- An audio track of a participant became available. -/
  | trackSubscribed (identity : String)
  /-- A participant finished saying something. -/
  | utterance (identity text : String)
  deriving DecidableEq, Repr

namespace RoomEvent

/-- The participant whom an event is about. -/
def identity : RoomEvent → String
  | joined identity _ => identity
  | left identity => identity
  | trackSubscribed identity => identity
  | utterance identity _ => identity

end RoomEvent

end MeetingLog
