import MeetingLog.Calendar.Moment
import MeetingLog.Record.Recording

/-!
# Windows

The window of a meeting is the time in which it took place, both ends included.
The times of records are those of one date.
-/

namespace MeetingLog

open MeetingLog.Calendar

/-- The time of a meeting, and the date of its records. -/
structure Window where
  date : Date
  start : Moment
  finish : Moment
  deriving DecidableEq, Repr

namespace Window

/-- The window of a recording on a date. Where no time is given, it reaches
from the time of the header to that of the footer, or over the whole day. -/
def ofRecording (recording : Recording) (date : Date)
    (start finish : Option ClockTime) : Window where
  date := date
  start :=
    date.atTime <|
      (start.or (recording.header.map Header.startedAt)).getD
        ClockTime.midnight
  finish :=
    date.atTime <|
      (finish.or (recording.footer.map Footer.endedAt)).getD
        ClockTime.endOfDay

def moment (window : Window) (time : ClockTime) : Moment :=
  window.date.atTime time

/-- `contains window moment` means that the moment is not before the window
and not behind it. -/
def contains (window : Window) (moment : Moment) : Bool :=
  window.start.atMost moment && moment.atMost window.finish

end Window

end MeetingLog
