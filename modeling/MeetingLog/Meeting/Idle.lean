import MeetingLog.Calendar.Duration
import MeetingLog.Meeting.Basic

/-!
# Pauses of a meeting

The group is paused when everybody with a session has been silent for at least
the timeout. One participant who spoke more recently keeps the whole group
active. The sessions are closed, and everybody who had one is idle from then
on.
-/

namespace MeetingLog

open MeetingLog.Calendar
open MeetingLog.Trace

namespace Meeting

/-- How long a participant has been silent. -/
def silence (meeting : Meeting) (participant : Participant) : Nat :=
  meeting.elapsed - participant.lastSpeech

def listeners (meeting : Meeting) : List Participant :=
  meeting.participants.values.filter fun participant =>
    participant.session.isSome

/-- `isSilent meeting timeout` means that somebody has a session and that
everybody with one has been silent for at least the timeout. -/
def isSilent (meeting : Meeting) (timeout : Nat) : Bool :=
  !meeting.listeners.isEmpty &&
    meeting.listeners.all fun participant =>
      timeout ≤ meeting.silence participant

/-- Participants are paused one after another, each with a record. The result
lists their sessions. -/
def pauseEach (time : ClockTime) (meeting : Meeting)
    (participants : List Participant)
    (recorder : Recorder := Store.appendCore) :
    Meeting × Except StoreError (List Farewell) :=
  match participants with
  | [] => (meeting, .ok [])
  | participant :: others =>
      let noted :=
        meeting.note
          (Note.info ("Closing session for " ++ participant.identity ++
            " (idle " ++ minutesText 1 (meeting.silence participant) ++
              " min)"))
      let paused :=
        noted.putParticipant
          { participant with presence := .idle, session := none }
      match paused.append
          (.lifecycle ⟨time, participant.identity, .paused⟩) recorder with
      | (meeting, .error error) => (meeting, .error error)
      | (meeting, .ok ()) =>
          match pauseEach time meeting others recorder with
          | (meeting, .error error) => (meeting, .error error)
          | (meeting, .ok farewells) =>
              (meeting,
                .ok ((participant.session.map fun session =>
                  (⟨participant.identity, session⟩ : Farewell)).toList ++
                    farewells))

/-- The group is paused. The sessions in the result have been handed over to be
closed. -/
def pause (meeting : Meeting) (timeout : Nat)
    (recorder : Recorder := Store.appendCore) :
    Meeting × Except StoreError (List Farewell) :=
  let noted :=
    meeting.note
      (Note.warning ("All participants idle for " ++ minutesText 0 timeout ++
        "+ min - pausing transcription"))
  match pauseEach noted.clock noted noted.listeners recorder with
  | (meeting, .error error) => (meeting, .error error)
  | (meeting, .ok farewells) =>
      (({ meeting with isPaused := true }).handOver farewells,
        .ok farewells)

/-- It is checked whether the group is silent. The result is empty if it was
not paused, and otherwise lists the sessions handed over to be closed. -/
def checkIdle (meeting : Meeting)
    (recorder : Recorder := Store.appendCore) :
    Meeting × Except StoreError (Option (List Farewell)) :=
  match meeting.options.idleTimeout with
  | none => (meeting, .ok none)
  | some timeout =>
      if meeting.isSilent timeout then
        let (meeting, result) := meeting.pause timeout recorder
        (meeting, result.map some)
      else (meeting, .ok none)

/-- A regular check failed. -/
def noteCheckFailure (meeting : Meeting) (error : StoreError) : Meeting :=
  meeting.note
    (Note.error ("Error in idle check loop: " ++
      String.intercalate ": " error.chain))

/-- There are no more regular checks. -/
def stopChecking (meeting : Meeting) : Meeting :=
  meeting.note (Note.debug "Idle check loop stopped")

end Meeting

end MeetingLog
