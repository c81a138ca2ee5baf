import MeetingLog.Rehearsal.Basic

/-!
# Running a rehearsal

A rehearsal follows a list of directions. Each direction is carried out to its
end, which may mean to wait; whatever else becomes due meanwhile happens at its
time. A direction that has not come to its end after a day is given up. What it
waits for itself goes before the tasks that are due at the same time.
-/

namespace MeetingLog

open MeetingLog.Calendar
open MeetingLog.Files
open MeetingLog.Trace

/-- One thing to do in a rehearsal. -/
inductive Direction where
  | handle (event : RoomEvent)
  /-- A meeting is told of an event even if it is being closed. -/
  | tell (event : RoomEvent)
  /-- Events are handled one after another until there are no more. -/
  | run (events : List RoomEvent)
  | advance (milliseconds : Nat)
  | checkIdle
  /-- Everything in flight is waited for. -/
  | wait
  /-- The store is finalized although the meeting goes on. -/
  | finalizeStore (ended : Moment)
  | close
  deriving DecidableEq, Repr

/-- How a direction was carried out. -/
inductive DirectionResult where
  | done
  | answered (answer : Bool)
  | refused (error : StoreError)
  | failed (error : MeetingError)
  /-- The direction did not come to its end. -/
  | hung
  deriving DecidableEq, Repr

namespace Rehearsal

/-! ## Running what is due -/

/-- `isBefore first second` means that of two due times the first goes before
the second; of equal ones that goes first which was set first. -/
def isBefore (first second : Nat × Nat) : Bool :=
  first.1 < second.1 || (first.1 == second.1 && first.2 ≤ second.2)

def firstTask : List Task → Option (Task × Nat)
  | [] => none
  | task :: others =>
      match task.due, firstTask others with
      | none, found => found
      | some due, none => some (task, due)
      | some due, some (other, otherDue) =>
          if isBefore (due, task.turn) (otherDue, other.turn) then
            some (task, due)
          else some (other, otherDue)

/-- When the next task or the regular check is due. -/
def nextDue (rehearsal : Rehearsal) : Option Nat :=
  earlier ((firstTask rehearsal.tasks).map (·.2))
    (rehearsal.loopDue.map (·.1))

/-- The rehearsal after the first thing that is due now has run, if there is
any. -/
def runFirst? (rehearsal : Rehearsal) : Option Rehearsal :=
  let task := (firstTask rehearsal.tasks).filter fun found =>
    found.2 ≤ rehearsal.elapsed
  let check := rehearsal.loopDue.filter fun found =>
    found.1 ≤ rehearsal.elapsed
  match task, check with
  | none, none => none
  | some (task, _), none => some (rehearsal.runTask task)
  | none, some _ => some rehearsal.runLoop
  | some (task, due), some check =>
      if isBefore (due, task.turn) check then some (rehearsal.runTask task)
      else some rehearsal.runLoop

/-- The rehearsal after everything that is due now has run. The first argument
bounds how much that is. -/
def settleWithin : Nat → Rehearsal → Rehearsal
  | 0, rehearsal => rehearsal
  | bound + 1, rehearsal =>
      match rehearsal.runFirst? with
      | none => rehearsal
      | some next => settleWithin bound next

/-- The rehearsal after everything that is due now has run. A task leaves at
most two others behind. -/
def settle (rehearsal : Rehearsal) : Rehearsal :=
  settleWithin (3 * rehearsal.tasks.length + 4) rehearsal

def moveTo (time : Nat) (rehearsal : Rehearsal) : Rehearsal :=
  rehearsal.onMeeting (Meeting.tick (time - rehearsal.elapsed))

/-! ## Waiting -/

/-- The rehearsal at the time when it is ready, or at the limit if it is not
ready before. What is due at the limit has not run. The first argument bounds
how often something becomes due. -/
def waitWithin (isReady : Rehearsal → Bool) (limit : Nat) :
    Nat → Rehearsal → Rehearsal × Bool
  | 0, rehearsal => (rehearsal.moveTo limit, false)
  | bound + 1, rehearsal =>
      let rehearsal := rehearsal.settle
      if isReady rehearsal then (rehearsal, true)
      else
        match rehearsal.nextDue with
        | none => (rehearsal.moveTo limit, false)
        | some due =>
            if due < limit then
              waitWithin isReady limit bound (rehearsal.moveTo due)
            else (rehearsal.moveTo limit, false)

def waitFor (isReady : Rehearsal → Bool) (limit : Nat)
    (rehearsal : Rehearsal) : Rehearsal × Bool :=
  waitWithin isReady limit (limit - rehearsal.elapsed + 1) rehearsal

/-- The rehearsal when every closing of a group has ended, or at the limit. The
closings that are due go before tasks that are due at the same time. The first
argument bounds how often something becomes due. -/
def waitGroupWithin (limit : Nat) :
    Nat → Rehearsal → List GroupClosing →
      Rehearsal × List GroupClosing × Bool
  | 0, rehearsal, group => (rehearsal.moveTo limit, group, false)
  | bound + 1, rehearsal, group =>
      let (rehearsal, group) := rehearsal.advanceGroup group
      if isGroupDone group then (rehearsal, group, true)
      else
        let rehearsal := rehearsal.settle
        match earlier rehearsal.nextDue (groupDue group) with
        | none => (rehearsal.moveTo limit, group, false)
        | some due =>
            if due < limit then
              waitGroupWithin limit bound (rehearsal.moveTo due) group
            else (rehearsal.moveTo limit, group, false)

/-- The rehearsal when every closing of a group has ended, or at the limit. -/
def waitGroup (limit : Nat) (rehearsal : Rehearsal)
    (group : List GroupClosing) :
    Rehearsal × List GroupClosing × Bool :=
  waitGroupWithin limit (limit - rehearsal.elapsed + 1) rehearsal group

/-- Sessions are closed together. The result is how many of them could not be
closed, if all closings have ended by the limit. -/
def closeTogether (limit : Nat) (rehearsal : Rehearsal)
    (farewells : List Farewell) : Rehearsal × Option Nat :=
  let (rehearsal, group) := rehearsal.beginGroup farewells
  match rehearsal.waitGroup limit group with
  | (rehearsal, group, true) =>
      (rehearsal.noteFailures group, some (groupFailures group).length)
  | (rehearsal, _, false) => (rehearsal, none)

/-- The milliseconds after which a direction is given up. -/
def patience : Nat :=
  86400000

/-- The rehearsal when everything in flight has been given up. -/
def dropTasks (rehearsal : Rehearsal) : Rehearsal :=
  { rehearsal with
    tasks := []
    meeting := rehearsal.meeting.abandonPending }

/-! ## Directions -/

/-- How an event was taken. -/
def resultOf {α : Type} : Except StoreError α → DirectionResult
  | .error error => .failed (.recording error)
  | .ok _ => .done

/-- What is left of an event that was taken: the sessions handed over. -/
def farewellsOf : Except StoreError (List Farewell) → List Farewell
  | .error _ => []
  | .ok farewells => farewells

def handle (rehearsal : Rehearsal) (event : RoomEvent) :
    Rehearsal × DirectionResult :=
  let (meeting, result) := rehearsal.meeting.handle event
  (rehearsal.follow meeting (farewellsOf result), resultOf result)

/-- A meeting is told of an event. -/
def tell (rehearsal : Rehearsal) (event : RoomEvent) :
    Rehearsal × DirectionResult :=
  let (meeting, result) := rehearsal.meeting.receive event
  (rehearsal.follow meeting (farewellsOf result), resultOf result)

def handleAll (rehearsal : Rehearsal) :
    List RoomEvent → Rehearsal × DirectionResult
  | [] =>
      (rehearsal.onMeeting Meeting.closeChannel, .done)
  | event :: others =>
      match rehearsal.handle event with
      | (rehearsal, .failed error) => (rehearsal, .failed error)
      | (rehearsal, _) => rehearsal.handleAll others

/-- It is checked whether the group is silent, and if it is paused the end of
its sessions is waited for, but not beyond the limit. -/
def checkIdleWithin (limit : Nat) (rehearsal : Rehearsal) :
    Rehearsal × DirectionResult :=
  let (meeting, result) := rehearsal.meeting.checkIdle
  let rehearsal := { rehearsal with meeting := meeting }
  match result with
  | .error error => (rehearsal, .failed (.recording error))
  | .ok none => (rehearsal, .answered false)
  | .ok (some farewells) =>
      match rehearsal.closeTogether limit farewells with
      | (rehearsal, some _) => (rehearsal, .answered true)
      | (rehearsal, none) => (rehearsal, .hung)

def checkIdle (rehearsal : Rehearsal) : Rehearsal × DirectionResult :=
  rehearsal.checkIdleWithin (rehearsal.elapsed + patience)

/-- Everything in flight is waited for. -/
def wait (rehearsal : Rehearsal) : Rehearsal × DirectionResult :=
  if rehearsal.tasks.isEmpty then (rehearsal, .done)
  else
    match rehearsal.waitFor (fun rehearsal => rehearsal.tasks.isEmpty)
        (rehearsal.elapsed + patience) with
    | (rehearsal, true) => (rehearsal, .done)
    | (rehearsal, false) => (rehearsal.dropTasks, .hung)

/-- `isLoopOver rehearsal` means that the regular check does not run any
more. -/
def isLoopOver (rehearsal : Rehearsal) : Bool :=
  match rehearsal.idleLoop with
  | .absent => true
  | .ended => true
  | _ => false

/-- The regular check, if it sleeps, is due at once. Its end is waited for from
now on. -/
def wakeLoop (rehearsal : Rehearsal) : Rehearsal :=
  let unwatched := { rehearsal with isLoopWatched := false }
  match rehearsal.idleLoop with
  | .sleeping _ _ =>
      { unwatched with
        idleLoop := .sleeping rehearsal.elapsed rehearsal.nextTurn
        nextTurn := rehearsal.nextTurn + 1 }
  | _ => unwatched

/-- The end of the regular check is waited for, unless that has been done
before. -/
def awaitLoop (limit : Nat) (rehearsal : Rehearsal) : Rehearsal × Bool :=
  if rehearsal.isLoopWatched then rehearsal.wakeLoop.waitFor isLoopOver limit
  else (rehearsal, true)

/-- What is in flight is waited for, but not longer than the grace allows. -/
def awaitTasks (limit : Nat) (rehearsal : Rehearsal) : Rehearsal × Bool :=
  if rehearsal.tasks.isEmpty then (rehearsal, true)
  else
    let grace := rehearsal.meeting.options.grace
    let graceEnd := rehearsal.elapsed + grace
    let isOver (rehearsal : Rehearsal) : Bool := rehearsal.tasks.isEmpty
    if graceEnd ≤ limit then
      match rehearsal.waitFor isOver graceEnd with
      | (rehearsal, true) => (rehearsal, true)
      | (rehearsal, false) =>
          ((rehearsal.onMeeting Meeting.noteGrace).dropTasks, true)
    else
      match rehearsal.waitFor isOver limit with
      | (rehearsal, true) => (rehearsal, true)
      | (rehearsal, false) => (rehearsal.dropTasks, false)

/-- The meeting takes no more events, and the end of the regular check and of
what is in flight is waited for. -/
def unwind (limit : Nat) (rehearsal : Rehearsal) : Rehearsal × Bool :=
  match (rehearsal.onMeeting Meeting.stopListening).awaitLoop limit with
  | (rehearsal, false) => (rehearsal, false)
  | (rehearsal, true) => rehearsal.awaitTasks limit

/-- The sessions left are closed, and the log is finalized. -/
def closeSessions (limit : Nat) (rehearsal : Rehearsal) :
    Rehearsal × DirectionResult :=
  let (meeting, farewells) := rehearsal.meeting.endWaiting.collectSessions
  match ({ rehearsal with meeting := meeting }).closeTogether limit
      farewells with
  | (rehearsal, none) => (rehearsal, .hung)
  | (rehearsal, some failures) =>
      match rehearsal.meeting.finish failures with
      | (meeting, .error error) =>
          ({ rehearsal with meeting := meeting }, .failed error)
      | (meeting, .ok ()) => ({ rehearsal with meeting := meeting }, .done)

/-- Time goes by, but not longer than a direction is allowed to take. -/
def advance (rehearsal : Rehearsal) (milliseconds : Nat) :
    Rehearsal × DirectionResult :=
  let later (duration : Nat) : Rehearsal :=
    (rehearsal.waitFor (fun _ => false) (rehearsal.elapsed + duration)).1
  if milliseconds ≤ patience then (later milliseconds, .done)
  else (later patience, .hung)

/-- The meeting is closed, unless that takes longer than the limit. -/
def closeWithin (limit : Nat) (rehearsal : Rehearsal) :
    Rehearsal × DirectionResult :=
  match rehearsal.unwind limit with
  | (rehearsal, false) => (rehearsal, .hung)
  | (rehearsal, true) => rehearsal.closeSessions limit

def close (rehearsal : Rehearsal) : Rehearsal × DirectionResult :=
  rehearsal.closeWithin (rehearsal.elapsed + patience)

/-- What a direction leads to before everything due has run. -/
def carryOut (rehearsal : Rehearsal) :
    Direction → Rehearsal × DirectionResult
  | .handle event => rehearsal.handle event
  | .tell event => rehearsal.tell event
  | .run events =>
      if rehearsal.meeting.isClosed then (rehearsal, .done)
      else rehearsal.handleAll events
  | .advance milliseconds => rehearsal.advance milliseconds
  | .checkIdle => rehearsal.checkIdle
  | .wait => rehearsal.wait
  | .finalizeStore ended =>
      match rehearsal.meeting.finalizeStore ended with
      | (meeting, .error error) =>
          ({ rehearsal with meeting := meeting }, .refused error)
      | (meeting, .ok ()) => ({ rehearsal with meeting := meeting }, .done)
  | .close => rehearsal.close

def step (rehearsal : Rehearsal) (direction : Direction) :
    Rehearsal × DirectionResult :=
  let (rehearsal, result) := rehearsal.carryOut direction
  (rehearsal.settle, result)

def start (meeting : Meeting) (script : Script) :
    Rehearsal × Except MeetingError Unit :=
  let (meeting, result) := meeting.start
  let isWatched := meeting.options.idleTimeout.isSome
  ({ meeting := meeting
     script := script
     tasks := []
     idleLoop :=
       if isWatched then .sleeping meeting.options.checkInterval 0
       else .absent
     isLoopWatched := isWatched
     nextTurn := 1 }, result)

end Rehearsal

end MeetingLog
