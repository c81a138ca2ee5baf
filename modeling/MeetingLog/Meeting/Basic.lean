import MeetingLog.RoomEvent
import MeetingLog.Speech
import MeetingLog.Store.Basic
import MeetingLog.Trace.Recovery

/-!
# Meetings

A meeting that is being recorded: who takes part, which of them has a session
in which speech is recognised, which sessions are being opened, and the store
that takes the records. Sessions are opened and closed by somebody else. An
opening that has been asked for stays in flight until its outcome is reported.
A session handed over to be closed leaves first, until it is asked to close,
and then its closing is in flight.
-/

namespace MeetingLog

open MeetingLog.Calendar
open MeetingLog.Files
open MeetingLog.Trace

/-- Whether the speech of a participant is being recognised or paused. -/
inductive Presence where
  | active
  | idle
  deriving DecidableEq, Repr

/-- A session in which the speech of one participant is recognised. Sessions
are numbered as they are opened; the name is given by whoever opens them. -/
structure Session where
  number : Nat
  name : String
  deriving DecidableEq, Repr

/-- Somebody who takes part, from joining to leaving. -/
structure Participant where
  identity : String
  name : String
  presence : Presence
  /-- When the silence of the participant began, in milliseconds since the
  meeting did. -/
  lastSpeech : Nat
  words : UInt64
  turns : UInt64
  characters : UInt64
  joinedAt : ClockTime
  session : Option Session
  /-- Whether a session is being opened. -/
  isOpening : Bool
  deriving DecidableEq, Repr

namespace Participant

def new (identity name : String) (joinedAt : ClockTime) (elapsed : Nat) :
    Participant :=
  ⟨identity, name, .active, elapsed, 0, 0, 0, joinedAt, none, false⟩

/-- The participant after something was said. -/
def speak (transcript : Transcript) (elapsed : Nat)
    (participant : Participant) : Participant :=
  { participant with
    lastSpeech := elapsed
    words := participant.words + transcript.wordCount
    turns := participant.turns + 1
    characters :=
      participant.characters + UInt64.ofNat transcript.text.length }

/-- `lacksSession participant` means that there is no session and none is being
opened. -/
def lacksSession (participant : Participant) : Bool :=
  participant.session.isNone && !participant.isOpening

/-- The participant while a session is being opened. -/
def beginOpening (participant : Participant) : Participant :=
  { participant with isOpening := true }

/-- The participant once a session is no longer being opened. -/
def endOpening (participant : Participant) : Participant :=
  { participant with isOpening := false }

end Participant

/-- What is fixed for the lifetime of a meeting. Durations are in
milliseconds. -/
structure MeetingOptions where
  idleTimeout : Option Nat
  /-- How often it is checked whether the group is silent. -/
  checkInterval : Nat
  /-- How long openings and closings in flight are waited for at the end. -/
  grace : Nat
  settings : SpeechSettings
  deriving DecidableEq, Repr

/-- A session that is being opened for a participant. -/
structure Opening where
  ticket : Nat
  identity : String
  /-- Whether the opening has been passed on. -/
  isBegun : Bool
  deriving DecidableEq, Repr

/-- A session that was handed over to be closed, with the participant it was
opened for. -/
structure Farewell where
  identity : String
  session : Session
  deriving DecidableEq, Repr

/-- What was asked of those who open and close sessions, and what they
reported. -/
inductive Call where
  | askedOpen (identity : String)
  | opened (identity : String) (session : Session)
  | askedClose (identity : String) (session : Session)
  | closed (identity : String) (session : Session)
  deriving DecidableEq, Repr

/-- A meeting that is being recorded. -/
structure Meeting where
  options : MeetingOptions
  store : Store
  files : FileTree
  began : Moment
  /-- The milliseconds since the meeting began. -/
  elapsed : Nat
  participants : Table String Participant
  /-- Whether all sessions were paused because the group was silent. -/
  isPaused : Bool
  isClosed : Bool
  /-- Whether the wait for what was in flight at the end is over. -/
  hasWaited : Bool
  /-- Whether the sessions left at the end have been handed over. -/
  isCollected : Bool
  openings : List Opening
  nextTicket : Nat
  nextSession : Nat
  /-- The sessions handed over to be closed, the oldest first. -/
  farewells : List Farewell
  leaving : List Farewell
  /-- Those of them that have been asked to close and have not come to an
  end. -/
  closings : List Farewell
  calls : List Call
  /-- The records that the store has taken, the oldest first. -/
  records : List CoreRecord
  trace : List Entry

namespace Meeting

def now (meeting : Meeting) : Moment :=
  meeting.began.later meeting.elapsed

/-- The time that records get now. -/
def clock (meeting : Meeting) : ClockTime :=
  meeting.now.time.wholeSecond

def note (meeting : Meeting) (note : Note) : Meeting :=
  { meeting with trace := meeting.trace ++ [⟨meeting.now, note⟩] }

def noteAll (meeting : Meeting) (notes : List Note) : Meeting :=
  notes.foldl Meeting.note meeting

def call (meeting : Meeting) (call : Call) : Meeting :=
  { meeting with calls := meeting.calls ++ [call] }

def withStore (meeting : Meeting) (step : StoreStep) : Meeting :=
  ({ meeting with store := step.store, files := step.files }).noteAll
    step.notes

/-- The meeting after its store was given a record, and whether the store took
it. -/
def append (meeting : Meeting) (record : CoreRecord)
    (recorder : Recorder := Store.appendCore) :
    Meeting × Except StoreError Unit :=
  let step := recorder meeting.store meeting.files record
  let given := { meeting with store := step.store, files := step.files }
  match step.result with
  | .error error => (given, .error error)
  | .ok () =>
      ({ given with records := meeting.records ++ [record] }, .ok ())

def participant? (meeting : Meeting) (identity : String) :
    Option Participant :=
  meeting.participants.get? identity

def putParticipant (meeting : Meeting) (participant : Participant) :
    Meeting :=
  { meeting with
    participants :=
      meeting.participants.insert participant.identity participant }

def changeParticipant (meeting : Meeting) (identity : String)
    (change : Participant → Participant) : Meeting :=
  { meeting with
    participants := meeting.participants.modify identity change }

def requestOpening (meeting : Meeting) (identity : String) : Meeting :=
  { meeting with
    openings := meeting.openings ++ [⟨meeting.nextTicket, identity, false⟩]
    nextTicket := meeting.nextTicket + 1 }

/-- The meeting with openings in flight for several participants. -/
def requestOpenings (meeting : Meeting) (identities : List String) :
    Meeting :=
  identities.foldl requestOpening meeting

def handOver (meeting : Meeting) (farewells : List Farewell) : Meeting :=
  { meeting with
    farewells := meeting.farewells ++ farewells
    leaving := meeting.leaving ++ farewells }

def tick (milliseconds : Nat) (meeting : Meeting) : Meeting :=
  { meeting with elapsed := meeting.elapsed + milliseconds }

end Meeting

end MeetingLog
