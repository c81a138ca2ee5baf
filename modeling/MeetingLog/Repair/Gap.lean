import MeetingLog.Calendar.Moment

/-!
# Gaps

A gap is the silence between two consecutive records when it lasts longer than
a threshold. Its ends do not belong to it.
-/

namespace MeetingLog

open MeetingLog.Calendar

/-- A long silence between two moments. -/
structure Gap where
  start : Moment
  finish : Moment
  deriving DecidableEq, Repr

namespace Gap

/-- How many seconds a silence may last without being a gap. -/
def threshold : Int :=
  60

/-- `contains gap moment` means that the moment lies strictly between the ends
of the gap. -/
def contains (gap : Gap) (moment : Moment) : Bool :=
  gap.start.before moment && moment.before gap.finish

/-- How many whole seconds a gap lasts. -/
def seconds (gap : Gap) : Int :=
  gap.start.wholeSecondsApart gap.finish

/-- A gap with its ends and its length in seconds. -/
def write (gap : Gap) : String :=
  gap.start.time.write ++ " -> " ++ gap.finish.time.write ++ " (" ++
    Text.integerNumeral gap.seconds ++ "s)"

end Gap

/-- The gaps between consecutive moments, in their order. -/
def findGaps (threshold : Int) : List Moment → List Gap
  | [] => []
  | [_] => []
  | first :: second :: others =>
      let gaps := findGaps threshold (second :: others)
      if threshold < first.wholeSecondsApart second then
        ⟨first, second⟩ :: gaps
      else gaps

end MeetingLog
