import MeetingLog.Calendar.Duration
import MeetingLog.Meeting.Basic

/-!
# Beginning and end of a meeting

A meeting begins when its store is ready. It ends in steps: no more events are
taken; the wait is over once no opening or closing is in flight or all have been
given up; then the sessions left are handed over; and when these have been
closed the log is finalized.
-/

namespace MeetingLog

open MeetingLog.Calendar
open MeetingLog.Files
open MeetingLog.Trace

/-- Why a meeting could not begin or end properly. -/
inductive MeetingError where
  | beginning (error : StoreError)
  | ending (error : StoreError)
  | recording (error : StoreError)
  deriving DecidableEq, Repr

namespace MeetingError

def store : MeetingError → StoreError
  | beginning error => error
  | ending error => error
  | recording error => error

/-- The texts of an error and of what caused it, the outermost first. -/
def chain : MeetingError → List String
  | beginning error => "Failed to initialize protocol files" :: error.chain
  | ending error => "Failed to finalize protocol files" :: error.chain
  | recording error => error.chain

end MeetingError

namespace Meeting

/-- A meeting about which nothing has been done yet. -/
def new (options : MeetingOptions) (storeOptions : StoreOptions)
    (files : FileTree) (began : Moment) : Meeting where
  options := options
  store := Store.new storeOptions
  files := files
  began := began
  elapsed := 0
  participants := Table.empty
  isPaused := false
  isClosed := false
  hasWaited := false
  isCollected := false
  openings := []
  nextTicket := 0
  nextSession := 0
  farewells := []
  leaving := []
  closings := []
  calls := []
  records := []
  trace := []

def beginningNotes (options : MeetingOptions) : List Note :=
  (match options.idleTimeout with
    | none => []
    | some timeout =>
        [Note.info ("Idle timeout enabled: " ++ minutesText 0 timeout ++
          " minutes")]) ++
    [Note.info "Protocol manager started, listening for participants"]

/-- The files of a meeting are created and it begins. -/
def start (meeting : Meeting) : Meeting × Except MeetingError Unit :=
  let step := meeting.store.start meeting.files
  let meeting := meeting.withStore step
  match step.result with
  | .error error => (meeting, .error (.beginning error))
  | .ok () => (meeting.noteAll (beginningNotes meeting.options), .ok ())

/-- There will be no more events. -/
def closeChannel (meeting : Meeting) : Meeting :=
  meeting.note (Note.info "Room event channel closed")

/-- The meeting takes no more events. -/
def stopListening (meeting : Meeting) : Meeting :=
  { meeting.note (Note.info "Closing protocol manager...") with
    isClosed := true }

/-- What was in flight is not waited for any more. -/
def endWaiting (meeting : Meeting) : Meeting :=
  { meeting with hasWaited := true }

/-- The openings in flight and the sessions that are leaving are given up. -/
def abandonPending (meeting : Meeting) : Meeting :=
  { meeting with openings := [], leaving := [] }

/-- It is noted that openings and closings in flight are given up. -/
def noteGrace (meeting : Meeting) : Meeting :=
  meeting.note
    (Note.warning ("Pending session operations did not finish within " ++
      durationText meeting.options.grace ++ ", aborting"))

/-- The sessions of all participants, ready to be handed over. -/
def remainingSessions (meeting : Meeting) : List Farewell :=
  meeting.participants.values.filterMap fun participant =>
    participant.session.map fun session => ⟨participant.identity, session⟩

/-- The sessions left are handed over to be closed. -/
def collectSessions (meeting : Meeting) : Meeting × List Farewell :=
  let farewells := meeting.remainingSessions
  (({ meeting with
      participants :=
        meeting.participants.map fun _ participant =>
          { participant with session := none }
      isCollected := true }).handOver farewells,
    farewells)

/-- What is noted when sessions could not be closed at the end. -/
def failureNotes (failures : Nat) : List Note :=
  if failures = 0 then []
  else
    [Note.warning (Text.numeral failures ++
      " session(s) failed to close cleanly")]

def finalizeStore (meeting : Meeting) (ended : Moment) :
    Meeting × Except StoreError Unit :=
  let step := meeting.store.finalize meeting.files ended
  (meeting.withStore step, step.result)

/-- The log is finalized and the meeting ends, after some sessions could not be
closed. -/
def finish (meeting : Meeting) (failures : Nat) :
    Meeting × Except MeetingError Unit :=
  let noted := meeting.noteAll (failureNotes failures)
  match noted.finalizeStore noted.now.wholeSecond with
  | (meeting, .error error) => (meeting, .error (.ending error))
  | (meeting, .ok ()) =>
      (meeting.note (Note.info "Protocol manager closed"), .ok ())

end Meeting

end MeetingLog
