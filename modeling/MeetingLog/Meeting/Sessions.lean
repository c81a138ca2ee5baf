import MeetingLog.Meeting.Basic

/-!
# Sessions of a meeting

An opening in flight begins when it is passed on, and ends when its outcome is
reported, however late. A session that is opened for a participant who has left
or has another session by then is handed over to be closed at once.
-/

namespace MeetingLog

open MeetingLog.Trace

/-- How an attempt to open a session ended: with a session of some name, or
without one. -/
inductive OpeningOutcome where
  | opened (name : String)
  | failed (reason : String)
  deriving DecidableEq, Repr

namespace Meeting

def opening? (meeting : Meeting) (ticket : Nat) : Option Opening :=
  meeting.openings.find? fun opening => opening.ticket = ticket

def dropOpening (meeting : Meeting) (ticket : Nat) : Meeting :=
  { meeting with
    openings :=
      meeting.openings.filter fun opening => opening.ticket ≠ ticket }

/-- The opening once it has been passed on, if it is the one with a ticket. -/
def markBegun (ticket : Nat) (opening : Opening) : Opening :=
  if opening.ticket = ticket then { opening with isBegun := true }
  else opening

def beginOpening (meeting : Meeting) (opening : Opening) : Meeting :=
  ({ meeting with
      openings := meeting.openings.map (markBegun opening.ticket) }.note
    (Note.info ("Starting transcription session for: " ++
      opening.identity))).call (.askedOpen opening.identity)

def newSession (meeting : Meeting) (name : String) : Meeting × Session :=
  ({ meeting with nextSession := meeting.nextSession + 1 },
    ⟨meeting.nextSession, name⟩)

/-- A session that was opened becomes the session of its participant, if that
participant is tracked and has none. Otherwise it is handed over. -/
def attach (meeting : Meeting) (identity : String) (session : Session) :
    Meeting × List Farewell :=
  let discarded : List Farewell := [⟨identity, session⟩]
  let discard (meeting : Meeting) : Meeting :=
    (meeting.note
      (Note.debug ("Discarding late session for " ++ identity))).handOver
        discarded
  match meeting.participant? identity with
  | none => (discard meeting, discarded)
  | some participant =>
      if participant.session.isNone then
        ((meeting.note
          (Note.info ("Session " ++ session.name ++ " started for " ++
            identity))).putParticipant
              { participant.endOpening with session := some session },
          [])
      else
        (discard (meeting.putParticipant participant.endOpening), discarded)

/-- The outcome of an opening is reported. The sessions in the result have been
handed over to be closed. -/
def finishOpening (meeting : Meeting) (opening : Opening)
    (outcome : OpeningOutcome) : Meeting × List Farewell :=
  let meeting := meeting.dropOpening opening.ticket
  match outcome with
  | .opened name =>
      let (meeting, session) := meeting.newSession name
      (meeting.call (.opened opening.identity session)).attach
        opening.identity session
  | .failed reason =>
      ((meeting.note
        (Note.error ("Failed to start session for " ++ opening.identity ++
          ": " ++ reason))).changeParticipant opening.identity
            Participant.endOpening, [])

/-- A session that is leaving is asked to close. -/
def beginClosing (meeting : Meeting) (farewell : Farewell) : Meeting :=
  { meeting with
    leaving := meeting.leaving.erase farewell
    closings := meeting.closings ++ [farewell] }.call
      (.askedClose farewell.identity farewell.session)

/-- A closing in flight is over. -/
def dropClosing (meeting : Meeting) (farewell : Farewell) : Meeting :=
  { meeting with closings := meeting.closings.erase farewell }

def finishClosing (meeting : Meeting) (farewell : Farewell) : Meeting :=
  (meeting.dropClosing farewell).call
    (.closed farewell.identity farewell.session)

/-- A session that was asked to close could not be closed. -/
def noteClosingFailure (meeting : Meeting) (farewell : Farewell)
    (reason : String) : Meeting :=
  (meeting.dropClosing farewell).note
    (Note.error ("Error closing session for " ++ farewell.identity ++ ": " ++
      reason))

end Meeting

end MeetingLog
