import MeetingLog.Meeting.Ending
import MeetingLog.Meeting.Events
import MeetingLog.Meeting.Idle
import MeetingLog.Meeting.Sessions

/-!
# Rehearsals

In a rehearsal a meeting runs on a clock that moves only while something is
waited for, and a script says how every opening and closing of a session turns
out. Whatever is in flight is a task. Tasks run one at a time, those first that
became due first, and among these the one that began to wait first.
-/

namespace MeetingLog

open MeetingLog.Calendar
open MeetingLog.Trace

/-- How one opening or closing turns out. -/
structure Act where
  /-- How many milliseconds it takes. -/
  delay : Nat
  fails : Bool
  /-- Whether it never comes to an end. -/
  hangs : Bool
  deriving DecidableEq, Repr

namespace Act

/-- What happens when the script does not say anything. -/
def plain : Act :=
  ⟨0, false, false⟩

/-- When an act that begins now comes to an end, if it does. -/
def due (act : Act) (elapsed : Nat) : Option Nat :=
  if act.hangs then none else some (elapsed + act.delay)

/-- `isInstant act` means that the act ends at once. -/
def isInstant (act : Act) : Bool :=
  !act.hangs && act.delay == 0

end Act

/-- How the openings and closings for every participant turn out, one after
another. -/
structure Script where
  openings : Table String (List Act)
  closings : Table String (List Act)

def takeAct (acts : Table String (List Act)) (identity : String) :
    Act × Table String (List Act) :=
  match acts.get? identity with
  | some (act :: others) => (act, acts.insert identity others)
  | _ => (Act.plain, acts)

/-- What a task does when it runs next. -/
inductive Work where
  | beginOpening (opening : Opening)
  | finishOpening (opening : Opening) (fails : Bool)
  | beginClosing (farewell : Farewell)
  | finishClosing (farewell : Farewell) (fails : Bool)
  deriving DecidableEq, Repr

/-- Something in flight: what it does next, when that is due, if ever, and when
it began to wait. -/
structure Task where
  work : Work
  due : Option Nat
  turn : Nat
  deriving DecidableEq, Repr

/-- One of several closings that are waited for together. -/
structure GroupClosing where
  farewell : Farewell
  fails : Bool
  due : Option Nat
  isDone : Bool
  deriving DecidableEq, Repr

/-- What the regular check for silence is doing. -/
inductive IdleLoop where
  | absent
  | sleeping (due turn : Nat)
  | closing (group : List GroupClosing) (turn : Nat)
  | ended
  deriving DecidableEq, Repr

structure Rehearsal where
  meeting : Meeting
  script : Script
  tasks : List Task
  idleLoop : IdleLoop
  /-- Whether nobody has waited for the end of the regular check yet. -/
  isLoopWatched : Bool
  nextTurn : Nat

/-- Why an opening of the script fails. -/
def openingFailure : String :=
  "STT backend unavailable"

/-- Why a closing of the script fails. -/
def closingFailure (identity : String) : String :=
  "close failed for " ++ identity

namespace Rehearsal

/-- The milliseconds since the rehearsal began. -/
def elapsed (rehearsal : Rehearsal) : Nat :=
  rehearsal.meeting.elapsed

def onMeeting (rehearsal : Rehearsal) (change : Meeting → Meeting) :
    Rehearsal :=
  { rehearsal with meeting := change rehearsal.meeting }

def addTask (rehearsal : Rehearsal) (work : Work) (due : Option Nat) :
    Rehearsal :=
  { rehearsal with
    tasks := rehearsal.tasks ++ [⟨work, due, rehearsal.nextTurn⟩]
    nextTurn := rehearsal.nextTurn + 1 }

/-- The rehearsal with a task that is due now. -/
def queue (rehearsal : Rehearsal) (work : Work) : Rehearsal :=
  rehearsal.addTask work (some rehearsal.elapsed)

/-! ## Closings -/

def takeClosing (rehearsal : Rehearsal) (identity : String) :
    Act × Rehearsal :=
  let (act, closings) := takeAct rehearsal.script.closings identity
  (act,
    { rehearsal with script := { rehearsal.script with closings := closings } })

/-- A closing comes to its end. -/
def finishClosing (rehearsal : Rehearsal) (farewell : Farewell)
    (fails : Bool) : Rehearsal :=
  rehearsal.onMeeting fun meeting =>
    if fails then
      meeting.noteClosingFailure farewell (closingFailure farewell.identity)
    else meeting.finishClosing farewell

/-- A session is asked to close; unless that ends at once a task waits for
it. -/
def beginClosing (rehearsal : Rehearsal) (farewell : Farewell) : Rehearsal :=
  let rehearsal := rehearsal.onMeeting fun meeting =>
    meeting.beginClosing farewell
  let (act, rehearsal) := rehearsal.takeClosing farewell.identity
  if act.isInstant then rehearsal.finishClosing farewell act.fails
  else
    rehearsal.addTask (.finishClosing farewell act.fails)
      (act.due rehearsal.elapsed)

def beginGroup : Rehearsal → List Farewell → Rehearsal × List GroupClosing
  | rehearsal, [] => (rehearsal, [])
  | rehearsal, farewell :: others =>
      let rehearsal := rehearsal.onMeeting fun meeting =>
        meeting.beginClosing farewell
      let (act, rehearsal) := rehearsal.takeClosing farewell.identity
      let rehearsal :=
        if act.isInstant && !act.fails then
          rehearsal.onMeeting fun meeting => meeting.finishClosing farewell
        else rehearsal
      let (rehearsal, group) := beginGroup rehearsal others
      (rehearsal,
        ⟨farewell, act.fails, act.due rehearsal.elapsed, act.isInstant⟩ ::
          group)

/-- `isDue rehearsal due` means that a due time has come. -/
def isDue (rehearsal : Rehearsal) (due : Option Nat) : Bool :=
  match due with
  | none => false
  | some due => due ≤ rehearsal.elapsed

def advanceGroup :
    Rehearsal → List GroupClosing → Rehearsal × List GroupClosing
  | rehearsal, [] => (rehearsal, [])
  | rehearsal, closing :: others =>
      if !closing.isDone && rehearsal.isDue closing.due then
        let rehearsal :=
          if closing.fails then rehearsal
          else
            rehearsal.onMeeting fun meeting =>
              meeting.finishClosing closing.farewell
        let (rehearsal, others) := advanceGroup rehearsal others
        (rehearsal, { closing with isDone := true } :: others)
      else
        let (rehearsal, others) := advanceGroup rehearsal others
        (rehearsal, closing :: others)

/-- `isGroupDone group` means that every closing of a group has ended. -/
def isGroupDone (group : List GroupClosing) : Bool :=
  group.all (·.isDone)

def groupFailures (group : List GroupClosing) : List Farewell :=
  (group.filter (·.fails)).map (·.farewell)

def noteFailures (rehearsal : Rehearsal) (group : List GroupClosing) :
    Rehearsal :=
  (groupFailures group).foldl
    (fun rehearsal farewell => rehearsal.finishClosing farewell true)
    rehearsal

/-! ## Openings -/

def nextName (rehearsal : Rehearsal) : String :=
  "session-" ++ Text.numeral rehearsal.meeting.nextSession

/-- An opening comes to its end. A session that came too late is asked to close
at once. -/
def finishOpening (rehearsal : Rehearsal) (opening : Opening)
    (fails : Bool) : Rehearsal :=
  let outcome : OpeningOutcome :=
    if fails then .failed openingFailure else .opened rehearsal.nextName
  let (meeting, farewells) := rehearsal.meeting.finishOpening opening outcome
  farewells.foldl beginClosing { rehearsal with meeting := meeting }

/-- An opening is passed on; unless that ends at once a task waits for it. -/
def beginOpening (rehearsal : Rehearsal) (opening : Opening) : Rehearsal :=
  let rehearsal := rehearsal.onMeeting fun meeting =>
    meeting.beginOpening opening
  let (act, openings) :=
    takeAct rehearsal.script.openings opening.identity
  let rehearsal :=
    { rehearsal with script := { rehearsal.script with openings := openings } }
  if act.isInstant then rehearsal.finishOpening opening act.fails
  else
    rehearsal.addTask (.finishOpening opening act.fails)
      (act.due rehearsal.elapsed)

/-- The rehearsal after something was done with its meeting, with tasks for the
openings that were asked for by that and for the sessions handed over. -/
def follow (rehearsal : Rehearsal) (meeting : Meeting)
    (farewells : List Farewell) : Rehearsal :=
  let asked := meeting.openings.filter fun opening =>
    rehearsal.meeting.nextTicket ≤ opening.ticket
  let opened := asked.foldl
    (fun rehearsal opening => rehearsal.queue (.beginOpening opening))
    { rehearsal with meeting := meeting }
  farewells.foldl
    (fun rehearsal farewell => rehearsal.queue (.beginClosing farewell))
    opened

def runWork (rehearsal : Rehearsal) : Work → Rehearsal
  | .beginOpening opening => rehearsal.beginOpening opening
  | .finishOpening opening fails => rehearsal.finishOpening opening fails
  | .beginClosing farewell => rehearsal.beginClosing farewell
  | .finishClosing farewell fails => rehearsal.finishClosing farewell fails

/-- A task runs and is over; it may leave another one behind. -/
def runTask (rehearsal : Rehearsal) (task : Task) : Rehearsal :=
  { rehearsal with
    tasks := rehearsal.tasks.filter fun other => other.turn ≠ task.turn
    }.runWork task.work

/-! ## The regular check -/

/-- The regular check sleeps until the next time, or ends if the meeting is
being closed. -/
def sleepOrEnd (rehearsal : Rehearsal) : Rehearsal :=
  if rehearsal.meeting.isClosed then
    { rehearsal with
      meeting := rehearsal.meeting.stopChecking
      idleLoop := .ended }
  else
    { rehearsal with
      idleLoop :=
        .sleeping
          (rehearsal.elapsed + rehearsal.meeting.options.checkInterval)
          rehearsal.nextTurn
      nextTurn := rehearsal.nextTurn + 1 }

/-- The regular check waits for a group of closings, or goes on if all of them
have ended. -/
def awaitGroup (rehearsal : Rehearsal) (group : List GroupClosing) :
    Rehearsal :=
  if isGroupDone group then (rehearsal.noteFailures group).sleepOrEnd
  else
    { rehearsal with
      idleLoop := .closing group rehearsal.nextTurn
      nextTurn := rehearsal.nextTurn + 1 }

/-- The regular check looks whether the group is silent. -/
def regularCheck (rehearsal : Rehearsal) : Rehearsal :=
  let (meeting, result) := rehearsal.meeting.checkIdle
  let rehearsal := { rehearsal with meeting := meeting }
  match result with
  | .error error =>
      (rehearsal.onMeeting fun meeting =>
        meeting.noteCheckFailure error).sleepOrEnd
  | .ok none => rehearsal.sleepOrEnd
  | .ok (some farewells) =>
      let (rehearsal, group) := rehearsal.beginGroup farewells
      rehearsal.awaitGroup group

/-- The regular check runs. -/
def runLoop (rehearsal : Rehearsal) : Rehearsal :=
  match rehearsal.idleLoop with
  | .absent => rehearsal
  | .ended => rehearsal
  | .sleeping _ _ =>
      if rehearsal.meeting.isClosed then rehearsal.sleepOrEnd
      else rehearsal.regularCheck
  | .closing group turn =>
      let (rehearsal, group) := rehearsal.advanceGroup group
      if isGroupDone group then (rehearsal.noteFailures group).sleepOrEnd
      else { rehearsal with idleLoop := .closing group turn }

/-- The earlier of two due times. -/
def earlier (first second : Option Nat) : Option Nat :=
  match first, second with
  | none, second => second
  | first, none => first
  | some first, some second =>
      some (if first ≤ second then first else second)

def groupDue (group : List GroupClosing) : Option Nat :=
  group.foldl
    (fun due closing => if closing.isDone then due else earlier due closing.due)
    none

/-- When the regular check is due, and when it began to wait. -/
def loopDue (rehearsal : Rehearsal) : Option (Nat × Nat) :=
  match rehearsal.idleLoop with
  | .absent => none
  | .ended => none
  | .sleeping due turn => some (due, turn)
  | .closing group turn => (groupDue group).map fun due => (due, turn)

end Rehearsal

end MeetingLog
