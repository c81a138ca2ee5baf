import MeetingLog.Json.Writer
import MeetingLog.Statistics.Basic

/-!
# Summary of the statistics

The summary lists the totals and the participants in ascending order of their
identities. The average number of words per turn is computed in double
precision and rounded to one decimal place, a half going to the even digit.
-/

namespace MeetingLog

open MeetingLog.Calendar
open MeetingLog.Json
open MeetingLog.Number

/-- The result of double arithmetic that cannot leave the range of doubles. -/
def withinRange (result : Option Magnitude) : Magnitude :=
  result.getD double.nought

def doubleOfCount (count : UInt64) : Magnitude :=
  withinRange (double.ofNat count.toNat)

namespace ParticipantStatistics

/-- The average number of words per turn; without turns, the number of
words. -/
def average (entry : ParticipantStatistics) : Magnitude :=
  withinRange <|
    double.div (doubleOfCount entry.words)
      (doubleOfCount (if entry.turns = 0 then 1 else entry.turns))

end ParticipantStatistics

/-- A double rounded to one decimal place, a half going to the even digit. -/
def roundedToTenth (value : Magnitude) : Magnitude :=
  let ten := withinRange (double.ofNat 10)
  let tenths := (withinRange (double.mul value ten)).value.nearestEven
  withinRange (double.div (withinRange (double.ofNat tenths)) ten)

def doubleValue (value : Magnitude) : Value :=
  .number (.real false double value)

def countValue (count : UInt64) : Value :=
  .number (.natural count)

/-- A time that may be unknown as a text; an unknown time is an empty one. -/
def optionalTime (time : Option ClockTime) : Value :=
  .text ((time.map ClockTime.write).getD "")

def ParticipantStatistics.summary (entry : ParticipantStatistics) : Value :=
  .object
    [("identity", .text entry.identity),
      ("name", .text entry.name),
      ("joined_at", optionalTime entry.joinedAt),
      ("left_at", optionalTime entry.leftAt),
      ("word_count", countValue entry.words),
      ("turn_count", countValue entry.turns),
      ("characters", countValue entry.characters),
      ("avg_words_per_turn", doubleValue (roundedToTenth entry.average))]

namespace Statistics

def summary (statistics : Statistics) : Value :=
  .object
    [("room_name", .text statistics.room),
      ("started_at", optionalTime statistics.startedAt),
      ("ended_at", optionalTime statistics.endedAt),
      ("duration_info", .text "See timestamps for duration"),
      ("total_participants",
        countValue (UInt64.ofNat statistics.participants.size)),
      ("total_turns", countValue statistics.totalTurns),
      ("total_words", countValue statistics.totalWords),
      ("participants",
        .object
          (statistics.participants.map fun _ entry =>
            entry.summary).entries)]

/-- The text of the file that holds the summary. -/
def artifact (statistics : Statistics) : String :=
  statistics.summary.indented

end Statistics

end MeetingLog
