import MeetingLog.Record.Basic
import MeetingLog.Table

/-!
# Statistics

While a meeting is recorded, turns, words and characters are counted for every
participant who joined or spoke. Counts have sixty-four bits and start again
from zero beyond that.
-/

namespace MeetingLog

open MeetingLog.Calendar

/-- What is known about one participant. -/
structure ParticipantStatistics where
  identity : String
  name : String
  joinedAt : Option ClockTime
  leftAt : Option ClockTime
  words : UInt64
  turns : UInt64
  characters : UInt64
  deriving DecidableEq, Repr

namespace ParticipantStatistics

/-- A participant who has done nothing yet and is called by the identity. -/
def new (identity : String) : ParticipantStatistics :=
  ⟨identity, identity, none, none, 0, 0, 0⟩

/-- The participant after one more turn. -/
def speak (text : String) (entry : ParticipantStatistics) :
    ParticipantStatistics :=
  { entry with
    words := entry.words + UInt64.ofNat (Text.wordCount text)
    turns := entry.turns + 1
    characters := entry.characters + UInt64.ofNat text.length }

/-- The participant after joining; only the first time counts. -/
def join (time : ClockTime) (entry : ParticipantStatistics) :
    ParticipantStatistics :=
  { entry with joinedAt := some (entry.joinedAt.getD time) }

/-- The participant after leaving; only the last time counts. -/
def leave (time : ClockTime) (entry : ParticipantStatistics) :
    ParticipantStatistics :=
  { entry with leftAt := some time }

end ParticipantStatistics

/-- What is known about a meeting. -/
structure Statistics where
  room : String
  startedAt : Option ClockTime
  endedAt : Option ClockTime
  participants : Table String ParticipantStatistics
  totalTurns : UInt64
  totalWords : UInt64

namespace Statistics

/-- A meeting that has just begun. -/
def new (room : String) (startedAt : ClockTime) : Statistics :=
  ⟨room, some startedAt, none, Table.empty, 0, 0⟩

def entry (statistics : Statistics) (identity : String) :
    ParticipantStatistics :=
  (statistics.participants.get? identity).getD
    (ParticipantStatistics.new identity)

/-- The statistics with the entry of a participant changed; the participant
gets one if there is none. -/
def change (statistics : Statistics) (identity : String)
    (step : ParticipantStatistics → ParticipantStatistics) : Statistics :=
  { statistics with
    participants :=
      statistics.participants.insert identity
        (step (statistics.entry identity)) }

/-- The statistics after something was said. -/
def speak (statistics : Statistics) (identity text : String) : Statistics :=
  { statistics.change identity (ParticipantStatistics.speak text) with
    totalTurns := statistics.totalTurns + 1
    totalWords :=
      statistics.totalWords + UInt64.ofNat (Text.wordCount text) }

def join (statistics : Statistics) (identity : String) (time : ClockTime) :
    Statistics :=
  statistics.change identity (ParticipantStatistics.join time)

/-- The statistics after a participant left, who is not counted if nothing was
known about them. -/
def leave (statistics : Statistics) (identity : String) (time : ClockTime) :
    Statistics :=
  { statistics with
    participants :=
      statistics.participants.modify identity
        (ParticipantStatistics.leave time) }

def add (statistics : Statistics) : CoreRecord → Statistics
  | .transcript entry => statistics.speak entry.participant entry.text
  | .lifecycle entry =>
      match entry.kind with
      | .joined => statistics.join entry.participant entry.time
      | .left => statistics.leave entry.participant entry.time
      | .paused => statistics
      | .resumed => statistics

def addAll (statistics : Statistics) (records : List CoreRecord) :
    Statistics :=
  records.foldl add statistics

end Statistics

end MeetingLog
