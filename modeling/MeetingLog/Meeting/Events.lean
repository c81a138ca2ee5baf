import MeetingLog.Meeting.Basic

/-!
# Events of a meeting

What a meeting does when it hears of an event in the room. Whatever goes onto
record is noted in the trace first. A record that the store does not take is an
error, and what the event would have led to afterwards does not happen.
-/

namespace MeetingLog

open MeetingLog.Calendar
open MeetingLog.Trace

namespace Meeting

/-- Somebody joins. A participant is tracked once the joining is on record, and
then a session is opened. -/
def join (meeting : Meeting) (identity : String) (name : Option String)
    (recorder : Recorder := Store.appendCore) :
    Meeting × Except StoreError Unit :=
  if meeting.participants.contains identity then
    (meeting.note
      (Note.debug ("Participant " ++ identity ++ " already tracked")),
      .ok ())
  else
    let time := meeting.clock
    let noted := meeting.note (Note.info (connectedMessage identity))
    match noted.append (.lifecycle ⟨time, identity, .joined⟩) recorder with
    | (meeting, .error error) => (meeting, .error error)
    | (meeting, .ok ()) =>
        let participant :=
          Participant.new identity (name.getD identity) time meeting.elapsed
        ((meeting.putParticipant participant.beginOpening).requestOpening
          identity, .ok ())

/-- The session of a participant who left, ready to be handed over. -/
def farewellOf (participant : Participant) : List Farewell :=
  match participant.session with
  | none => []
  | some session => [⟨participant.identity, session⟩]

/-- Somebody leaves. Once that is on record the session is handed over to be
closed. -/
def leave (meeting : Meeting) (identity : String)
    (recorder : Recorder := Store.appendCore) :
    Meeting × Except StoreError (List Farewell) :=
  match meeting.participant? identity with
  | none =>
      (meeting.note
        (Note.debug ("Ignoring disconnect of untracked participant " ++
          identity)), .ok [])
  | some participant =>
      let time := meeting.clock
      let without :=
        { meeting with
          participants := meeting.participants.erase identity }
      let noted := without.note (Note.info (disconnectedMessage identity))
      match noted.append (.lifecycle ⟨time, identity, .left⟩) recorder with
      | (meeting, .error error) => (meeting, .error error)
      | (meeting, .ok ()) =>
          let farewells := farewellOf participant
          (meeting.handOver farewells, .ok farewells)

/-- The participants among some identities who lack a session wake up, each
with a record, and get the mark of a session being opened. The result lists
them. -/
def resumeEach (time : ClockTime) (meeting : Meeting)
    (identities : List String) (recorder : Recorder := Store.appendCore) :
    Meeting × Except StoreError (List String) :=
  match identities with
  | [] => (meeting, .ok [])
  | identity :: others =>
      match meeting.participant? identity with
      | none => resumeEach time meeting others recorder
      | some participant =>
          if participant.lacksSession then
            let awake :=
              { participant.beginOpening with
                lastSpeech := meeting.elapsed
                presence := .active }
            match (meeting.putParticipant awake).append
                (.lifecycle ⟨time, participant.identity, .resumed⟩)
                recorder with
            | (meeting, .error error) => (meeting, .error error)
            | (meeting, .ok ()) =>
                match resumeEach time meeting others recorder with
                | (meeting, .error error) => (meeting, .error error)
                | (meeting, .ok resumed) =>
                    (meeting, .ok (participant.identity :: resumed))
          else resumeEach time meeting others recorder

/-- The whole group wakes up after a pause. -/
def resume (meeting : Meeting) (recorder : Recorder := Store.appendCore) :
    Meeting × Except StoreError Unit :=
  let noted :=
    meeting.note
      (Note.info "Restarting transcription sessions after idle...")
  let lowered := { noted with isPaused := false }
  match resumeEach lowered.clock lowered lowered.participants.keys recorder
    with
  | (meeting, .error error) => (meeting, .error error)
  | (meeting, .ok resumed) => (meeting.requestOpenings resumed, .ok ())

/-- Another attempt to open a session for one participant. -/
def retry (meeting : Meeting) (identity : String) : Meeting :=
  ((meeting.note
    (Note.info ("Retrying transcription session for " ++ identity))).changeParticipant
      identity Participant.beginOpening).requestOpening identity

/-- An audio track of a participant becomes available. If the participant lacks
a session, a paused group wakes up, and otherwise another attempt is made for
this participant. -/
def subscribeTrack (meeting : Meeting) (identity : String)
    (recorder : Recorder := Store.appendCore) :
    Meeting × Except StoreError Unit :=
  let noted :=
    meeting.note (Note.info ("Audio track subscribed from " ++ identity))
  match noted.participant? identity with
  | none =>
      (noted.note
        (Note.debug ("Audio track from untracked participant " ++ identity)),
        .ok ())
  | some participant =>
      if participant.lacksSession then
        if noted.isPaused then noted.resume recorder
        else (noted.retry identity, .ok ())
      else (noted, .ok ())

/-- The meeting after the words of a participant were counted, or with a
warning if the participant is not tracked. -/
def countSpeech (meeting : Meeting) (identity : String)
    (transcript : Transcript) : Meeting :=
  match meeting.participant? identity with
  | none =>
      meeting.note
        (Note.warning ("Transcript from untracked participant " ++ identity))
  | some _ =>
      meeting.changeParticipant identity
        (Participant.speak transcript meeting.elapsed)

/-- Somebody said something. Blank texts are dropped. -/
def hear (meeting : Meeting) (identity text : String)
    (recorder : Recorder := Store.appendCore) :
    Meeting × Except StoreError Unit :=
  match Transcript.ofUtterance? meeting.clock identity text with
  | none =>
      (meeting.note
        (Note.debug ("Empty transcript for " ++ identity ++ ", ignoring")),
        .ok ())
  | some transcript =>
      ((meeting.countSpeech identity transcript).note
        (Note.info (spokenMessage transcript))).append
          (.transcript transcript) recorder

/-- What a meeting does when it is told of an event, and the sessions handed
over to be closed. -/
def receive (meeting : Meeting) (event : RoomEvent)
    (recorder : Recorder := Store.appendCore) :
    Meeting × Except StoreError (List Farewell) :=
  match event with
  | .joined identity name =>
      let (meeting, result) := meeting.join identity name recorder
      (meeting, result.map fun _ => [])
  | .left identity => meeting.leave identity recorder
  | .trackSubscribed identity =>
      let (meeting, result) := meeting.subscribeTrack identity recorder
      (meeting, result.map fun _ => [])
  | .utterance identity text =>
      let (meeting, result) := meeting.hear identity text recorder
      (meeting, result.map fun _ => [])

/-- What a meeting does with an event of its room. Once the meeting is being
closed, events are dropped. -/
def handle (meeting : Meeting) (event : RoomEvent)
    (recorder : Recorder := Store.appendCore) :
    Meeting × Except StoreError (List Farewell) :=
  if meeting.isClosed then
    (meeting.note
      (Note.debug ("Supervisor closed, dropping event for " ++
        event.identity)), .ok [])
  else meeting.receive event recorder

end Meeting

end MeetingLog
