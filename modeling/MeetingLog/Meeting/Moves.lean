import MeetingLog.Meeting.Ending
import MeetingLog.Meeting.Events
import MeetingLog.Meeting.Idle
import MeetingLog.Meeting.Sessions

/-!
# Moves of a meeting

Everything that can happen to a meeting happens in moves, each of which is done
as a whole. Moves may follow one another in any order; the outcome of an
opening in flight, for instance, may be reported at any time. A move that does
not apply to the state changes nothing.
-/

namespace MeetingLog

open MeetingLog.Calendar

/-- Something that can happen to a meeting. -/
inductive Move where
  | handle (event : RoomEvent)
  /-- The meeting is told of an event by somebody who does not look whether it
  is being closed, or who looked before it was. -/
  | tell (event : RoomEvent)
  /-- There are no more events. -/
  | closeChannel
  | beginOpening (ticket : Nat)
  /-- The outcome of an opening that was passed on is reported. -/
  | finishOpening (ticket : Nat) (outcome : OpeningOutcome)
  | beginClosing (farewell : Farewell)
  /-- A session that was asked to close has closed, or could not be closed. -/
  | finishClosing (farewell : Farewell) (failure : Option String)
  | checkIdle
  /-- The regular check looks whether the group is silent. -/
  | checkRegularly
  | stopChecking
  | tick (milliseconds : Nat)
  | stopListening
  /-- The wait is over as nothing is in flight any more. -/
  | endWaiting
  /-- What is in flight is given up when the grace is over. -/
  | abandonPending
  /-- The sessions left are handed over, once the wait is over. -/
  | collectSessions
  /-- The log is finalized, after some sessions could not be closed. -/
  | finish (failures : Nat)
  deriving DecidableEq, Repr

namespace Meeting

/-- `isQuiet meeting` means that the meeting is being closed, that no session
is being opened and that none has still to be asked to close. -/
def isQuiet (meeting : Meeting) : Bool :=
  meeting.isClosed && meeting.openings.isEmpty && meeting.leaving.isEmpty

/-- `isUnwound meeting` means that the meeting is being closed, and that the wait
for what was in flight is over. -/
def isUnwound (meeting : Meeting) : Bool :=
  meeting.isClosed && meeting.hasWaited

/-- `isCleared meeting` means that the sessions left have been handed over and
that none has still to be asked to close. -/
def isCleared (meeting : Meeting) : Bool :=
  meeting.isCollected && meeting.leaving.isEmpty

def perform (meeting : Meeting) (move : Move)
    (recorder : Recorder := Store.appendCore) : Meeting :=
  match move with
  | .handle event => (meeting.handle event recorder).1
  | .tell event => (meeting.receive event recorder).1
  | .closeChannel => meeting.closeChannel
  | .beginOpening ticket =>
      match meeting.opening? ticket with
      | none => meeting
      | some opening =>
          if opening.isBegun then meeting else meeting.beginOpening opening
  | .finishOpening ticket outcome =>
      match meeting.opening? ticket with
      | none => meeting
      | some opening =>
          if opening.isBegun then (meeting.finishOpening opening outcome).1
          else meeting
  | .beginClosing farewell =>
      if meeting.leaving.contains farewell then meeting.beginClosing farewell
      else meeting
  | .finishClosing farewell failure =>
      if meeting.closings.contains farewell then
        match failure with
        | none => meeting.finishClosing farewell
        | some reason => meeting.noteClosingFailure farewell reason
      else meeting
  | .checkIdle => (meeting.checkIdle recorder).1
  | .checkRegularly =>
      match meeting.checkIdle recorder with
      | (meeting, .error error) => meeting.noteCheckFailure error
      | (meeting, .ok _) => meeting
  | .stopChecking => meeting.stopChecking
  | .tick milliseconds => meeting.tick milliseconds
  | .stopListening => meeting.stopListening
  | .endWaiting => if meeting.isQuiet then meeting.endWaiting else meeting
  | .abandonPending =>
      if meeting.isClosed then meeting.noteGrace.abandonPending.endWaiting
      else meeting
  | .collectSessions =>
      if meeting.isUnwound then meeting.collectSessions.1 else meeting
  | .finish failures =>
      if meeting.isCleared then (meeting.finish failures).1 else meeting

def performAll (meeting : Meeting) (moves : List Move) : Meeting :=
  moves.foldl (fun meeting move => meeting.perform move) meeting

/-- The meeting after some moves, each of which gives its records to the store
in a way of its own. -/
def performEach (meeting : Meeting) (steps : List (Move × Recorder)) :
    Meeting :=
  steps.foldl (fun meeting step => meeting.perform step.1 step.2) meeting

/-- `takes meeting move` means that the store takes every record that the move
gives it. -/
def takes (meeting : Meeting) (move : Move)
    (recorder : Recorder := Store.appendCore) : Bool :=
  match move with
  | .handle event => (meeting.handle event recorder).2.isOk
  | .tell event => (meeting.receive event recorder).2.isOk
  | .checkIdle => (meeting.checkIdle recorder).2.isOk
  | .checkRegularly => (meeting.checkIdle recorder).2.isOk
  | _ => true

/-- `takesAll meeting moves` means that the store takes every record that the
moves, done one after another, give it. -/
def takesAll (meeting : Meeting) : List Move → Bool
  | [] => true
  | move :: moves =>
      meeting.takes move && (meeting.perform move).takesAll moves

/-- `takesEach meeting steps` means that no record is refused by any of the
steps, done one after another. -/
def takesEach (meeting : Meeting) : List (Move × Recorder) → Bool
  | [] => true
  | step :: steps =>
      meeting.takes step.1 step.2 &&
        (meeting.perform step.1 step.2).takesEach steps

end Meeting

end MeetingLog
