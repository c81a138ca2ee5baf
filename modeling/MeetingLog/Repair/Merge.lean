import MeetingLog.Record.TextForm
import MeetingLog.Repair.Gap
import MeetingLog.Repair.Signature
import MeetingLog.Repair.Window
import MeetingLog.Trace.Recovery

/-!
# Repair

A damaged recording is repaired from the trace. A record of the trace is taken
over when it was noted inside the window and inside a gap of the recording and
when no record that is already there tells of the same thing. The records are
then put in order of their times, those of the recording first where times are
equal.
-/

namespace MeetingLog

open MeetingLog.Calendar

structure Repaired where
  window : Window
  room : String
  header : Option Header
  records : List CoreRecord
  footer : Footer
  gaps : List Gap
  /-- How many records were taken from the trace. -/
  recovered : Nat
  statistics : Statistics

/-- The records in order of their times; records of equal times keep the order
they had. -/
def sortByTime (records : List CoreRecord) : List CoreRecord :=
  records.mergeSort fun first second => first.time.rank ≤ second.time.rank

/-- The gaps of records in order of their times, on the date of a window. -/
def gapsOf (window : Window) (sorted : List CoreRecord) : List Gap :=
  findGaps Gap.threshold (sorted.map fun record => window.moment record.time)

/-- `isMissable window gaps moment` means that a record noted at the moment can
be missing: the moment lies in the window and in a gap. -/
def isMissable (window : Window) (gaps : List Gap) (moment : Moment) : Bool :=
  window.contains moment && gaps.any fun gap => gap.contains moment

/-- `isKnown seen record` means that a record which tells of the same thing has
been seen, or for a lifecycle record one of a second earlier. -/
def isKnown (seen : List Signature) (record : CoreRecord) : Bool :=
  seen.contains (Signature.ofRecord record) ||
    match Signature.ofPreviousSecond? record with
    | none => false
    | some earlier => seen.contains earlier

/-- The records among `candidates` that are not known, each one known once it
has been taken. -/
def adopt : List Signature → List CoreRecord → List CoreRecord
  | _, [] => []
  | seen, record :: candidates =>
      if isKnown seen record then adopt seen candidates
      else record :: adopt (Signature.ofRecord record :: seen) candidates

def recover (logger : String) (window : Window) (sorted : List CoreRecord)
    (trace : String) : List CoreRecord :=
  let gaps := gapsOf window sorted
  let candidates :=
    (Trace.readAll logger trace).filter fun entry =>
      isMissable window gaps entry.loggedAt
  adopt (sorted.map Signature.ofRecord) (candidates.map (·.record))

/-- The footer of a repaired recording: the one it had, or one with the time
of the last record or of the end of the window. -/
def repairedFooter (recording : Recording) (window : Window)
    (records : List CoreRecord) : Footer :=
  match recording.footer with
  | some footer => footer
  | none =>
      ⟨match records.getLast? with
        | some last => last.time
        | none => window.finish.time⟩

def Recording.repair (recording : Recording) (logger trace : String)
    (window : Window) (room : String) : Repaired :=
  let sorted := sortByTime recording.core
  let recovered := recover logger window sorted trace
  let records := sortByTime (sorted ++ recovered)
  let footer := repairedFooter recording window records
  let startedAt :=
    (recording.header.map Header.startedAt).getD window.start.time
  { window := window
    room := room
    header := recording.header
    records := records
    footer := footer
    gaps := gapsOf window sorted
    recovered := recovered.length
    statistics :=
      { (Statistics.new room startedAt).addAll records with
        endedAt := some footer.endedAt } }

namespace Repaired

def allRecords (repaired : Repaired) : List Record :=
  (repaired.header.map Record.header).toList ++
    repaired.records.map Record.core ++ [.footer repaired.footer]

def recordLines (repaired : Repaired) : String :=
  String.join (repaired.allRecords.map fun record => record.line ++ "\n")

/-- The provider that is named when there is no header to name one. -/
def defaultProvider : String :=
  "deepgram"

def textForm (repaired : Repaired) (withStatistics : Bool) : String :=
  let started :=
    (repaired.header.map fun header =>
      repaired.window.moment header.startedAt).getD repaired.window.start
  let provider :=
    (repaired.header.map Header.provider).getD defaultProvider
  openingBlock started repaired.room provider ++
    String.join (repaired.records.map CoreRecord.textForm) ++
    closingBlock (repaired.window.moment repaired.footer.endedAt)
      (if withStatistics then some repaired.statistics else none)

def notes (repaired : Repaired) : List Trace.Note :=
  (repaired.gaps.map fun gap =>
    Trace.Note.info ("Detected gap: " ++ gap.write)) ++
    [Trace.Note.info ("Found " ++ Text.numeral repaired.recovered ++
      " missing records in trace within gaps")]

end Repaired

end MeetingLog
