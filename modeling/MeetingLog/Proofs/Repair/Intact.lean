import MeetingLog.Proofs.Repair.Idempotence
import MeetingLog.Proofs.Store.Views

/-!
# Repairing an intact recording

A recording that a store has completed is repaired to what the store has
written, if the trace tells of nothing that is missing. The repair takes the
records out of the record file, sorts them, counts them again and writes them
anew; none of this makes a difference as long as the records are in order and
the meeting ended on the day on which it began.
-/

namespace MeetingLog

open MeetingLog.Calendar
open MeetingLog.Files
open MeetingLog.Text
open MeetingLog.Trace

/-- `entry.IsExcused window gaps records` means that nothing is missing because
of the entry: it was noted outside the window or outside all gaps, or a record
tells of the same thing, or of the same change a second earlier. -/
def Trace.Recovered.IsExcused (window : Window) (gaps : List Gap)
    (records : List CoreRecord) (entry : Recovered) : Prop :=
  window.contains entry.loggedAt = false ∨
    (∀ gap ∈ gaps, gap.contains entry.loggedAt = false) ∨
    (∃ record ∈ records,
      Signature.ofRecord record = Signature.ofRecord entry.record) ∨
    ∃ lifecycle : Lifecycle, entry.record = .lifecycle lifecycle ∧
      .lifecycle { lifecycle with time := lifecycle.time.previousSecond } ∈
        records

/-- What is excused and can be missing is known. -/
theorem Trace.Recovered.IsExcused.isKnown {window : Window}
    {records : List CoreRecord} {entry : Recovered}
    (excused : entry.IsExcused window (gapsOf window records) records)
    (missable : isMissable window (gapsOf window records) entry.loggedAt =
      true) :
    isKnown (records.map Signature.ofRecord) entry.record = true := by
  rw [isMissable, Bool.and_eq_true, List.any_eq_true] at missable
  obtain ⟨inside, gap, member, within⟩ := missable
  rw [isKnown_eq_true_iff]
  rcases excused with
    (outside | apart | ⟨record, found, same⟩ | ⟨lifecycle, shape, found⟩)
  · rw [inside] at outside
    cases outside
  · rw [apart gap member] at within
    cases within
  · left
    rw [← same]
    exact List.mem_map_of_mem found
  · right
    rw [shape]
    exact ⟨_, rfl, List.mem_map_of_mem found⟩

section

variable {logger trace : String} {window : Window} {records : List CoreRecord}

theorem recover_of_excused
    (excused : ∀ entry ∈ readAll logger trace,
      entry.IsExcused window (gapsOf window records) records) :
    recover logger window records trace = [] := by
  refine adopt_eq_nil fun record member => ?_
  obtain ⟨entry, candidate, rfl⟩ := List.mem_map.1 member
  obtain ⟨inTrace, missable⟩ := List.mem_filter.1 candidate
  exact (excused entry inTrace).isKnown missable

/-! ## What is written -/

/-- Records in order to which nothing is added stay as they are. -/
theorem records_repair_of_isOrdered {recording : Recording} {room : String}
    (ordered : IsOrdered recording.core)
    (nothing : recover logger window recording.core trace = []) :
    (recording.repair logger trace window room).records = recording.core ∧
      (recording.repair logger trace window room).recovered = 0 := by
  have sorted := sortByTime_of_isOrdered ordered
  constructor
  · show sortByTime (sortByTime recording.core ++
      recover logger window (sortByTime recording.core) trace) = _
    rw [sorted, nothing, List.append_nil, sorted]
  · show (recover logger window (sortByTime recording.core) trace).length = 0
    rw [sorted, nothing, List.length_nil]

variable {options : StoreOptions} {ended : Moment}

theorem recordLines_repair_intact
    (records_eq : ((options.recordingOf records (some ended)).repair logger
      trace window options.room).records = records) :
    ((options.recordingOf records (some ended)).repair logger trace window
      options.room).recordLines = options.recordView records (some ended) := by
  have same : ((options.recordingOf records (some ended)).repair logger trace
      window options.room).asRecording =
        options.recordingOf records (some ended) := by
    rw [Repaired.asRecording, records_eq]
    rfl
  rw [recordLines_eq, same, StoreOptions.recordView_eq]

/-- The counts do not depend on whether the records were counted one by one
or all at once, and the time of the end is only known to the second. -/
theorem statistics_repair_intact (startedWhole : options.started.time.IsWhole)
    (records_eq : ((options.recordingOf records (some ended)).repair logger
      trace window options.room).records = records) :
    ((options.recordingOf records (some ended)).repair logger trace window
      options.room).statistics =
        { Store.finalStatistics options records ended with
          endedAt := some ended.time.wholeSecond } := by
  rw [statistics_repair, records_eq]
  show { (Statistics.new options.room
    options.started.time.wholeSecond).addAll records with
      endedAt := some ended.time.wholeSecond } = _
  rw [ClockTime.wholeSecond_eq startedWhole]
  rfl

theorem textForm_repair_intact (startedWhole : options.started.time.IsWhole)
    (sameDate : ended.date = options.started.date)
    (windowDate : window.date = options.started.date)
    (records_eq : ((options.recordingOf records (some ended)).repair logger
      trace window options.room).records = records) :
    ((options.recordingOf records (some ended)).repair logger trace window
      options.room).textForm options.statistics =
        options.textView records (some ended) := by
  have opening : openingBlock (window.moment
        options.started.time.wholeSecond) options.room options.provider =
      options.openingText := by
    rw [ClockTime.wholeSecond_eq startedWhole, Window.moment, windowDate]
    rfl
  have closing : closingBlock (window.moment ended.time.wholeSecond)
        (if options.statistics then
          some ((options.recordingOf records (some ended)).repair logger trace
            window options.room).statistics
        else none) =
      closingBlock ended (Store.shownStatistics options
        (Store.finalStatistics options records ended)) := by
    rw [Window.moment, windowDate, ← sameDate, closingBlock_wholeSecond,
      statistics_repair_intact startedWhole records_eq,
      Store.shownStatistics]
    cases options.statistics with
    | false => rfl
    | true => rfl
  rw [Repaired.textForm, records_eq]
  show openingBlock (window.moment options.started.time.wholeSecond)
      options.room options.provider ++ coreText records ++
    closingBlock (window.moment ended.time.wholeSecond) _ = _
  rw [opening, closing]
  rfl

/-- The repaired recording of a store is written like the files of the store if
the trace is excused. -/
theorem repair_intact (startedWhole : options.started.time.IsWhole)
    (sameDate : ended.date = options.started.date)
    (windowDate : window.date = options.started.date)
    (ordered : IsOrdered records)
    (excused : ∀ entry ∈ readAll logger trace,
      entry.IsExcused window ((options.recordingOf records
        (some ended)).repair logger trace window options.room).gaps records) :
    let repaired := (options.recordingOf records (some ended)).repair logger
      trace window options.room
    repaired.recovered = 0 ∧
      repaired.recordLines = options.recordView records (some ended) ∧
      repaired.textForm options.statistics =
        options.textView records (some ended) ∧
      repaired.statistics.artifact =
        (Store.finalStatistics options records ended).artifact := by
  intro repaired
  have orderedToo :
      IsOrdered (options.recordingOf records (some ended)).core :=
    ordered
  have gaps : repaired.gaps = gapsOf window records := by
    show gapsOf window (sortByTime records) = _
    rw [sortByTime_of_isOrdered ordered]
  have nothing : recover logger window records trace = [] := by
    refine recover_of_excused fun entry member => ?_
    rw [← gaps]
    exact excused entry member
  obtain ⟨records_eq, recovered⟩ :
      repaired.records = records ∧ repaired.recovered = 0 :=
    records_repair_of_isOrdered orderedToo nothing
  refine ⟨recovered, recordLines_repair_intact records_eq,
    textForm_repair_intact startedWhole sameDate windowDate records_eq, ?_⟩
  rw [statistics_repair_intact startedWhole records_eq, summary_wholeSecond]
  rfl

end

/-- Repairing the recording that a store has completed, in the window of its
header and footer and with the room of its header, recovers nothing if the
trace is excused throughout, and it writes what the store has written, byte for
byte: the record file, the text file and the statistics. -/
theorem repair_of_intact_recording {options : StoreOptions}
    {files written : FileTree} {store : Store} {records : List CoreRecord}
    {ended : Moment}
    (startedWhole : options.started.time.IsWhole)
    (sameDate : ended.date = options.started.date)
    (whole : ∀ record ∈ records, record.time.IsWhole)
    (ordered : IsOrdered records) (both : options.format = .both)
    (started : ((Store.new options).start files).result = .ok ())
    (taken : Store.Takes ((Store.new options).start files).store
      ((Store.new options).start files).files records store written)
    (finalized : (store.finalize written ended).result = .ok ())
    (logger trace : String) :
    let final := store.finalize written ended
    ∃ content,
      final.files.readText options.paths.records = .ok content ∧
      let recording := Recording.read content
      let window :=
        Window.ofRecording recording options.started.date none none
      recording.header = some options.header ∧
      let repaired :=
        recording.repair logger trace window options.header.room
      (∀ entry ∈ readAll logger trace,
        entry.IsExcused window repaired.gaps records) →
      repaired.recovered = 0 ∧
        final.files.readBytes options.paths.records =
          .ok (bytesOf repaired.recordLines) ∧
        final.files.readBytes options.paths.text =
          .ok (bytesOf (repaired.textForm options.statistics)) ∧
        repaired.statistics.artifact = final.store.statistics.artifact ∧
        (options.statistics = true →
          final.files.readBytes options.paths.statistics =
            .ok (bytesOf repaired.statistics.artifact)) := by
  intro final
  have recording : Store.IsRecording options store written records :=
    (Store.start_isRecording started).takes taken
  obtain ⟨textShown, linesShown⟩ := recording.finalize_shows ended
  have lines : options.recordContent records ++ recordText [.footer ⟨ended.time⟩]
      = options.recordView records (some ended) := by
    rw [StoreOptions.recordView, recordText_append]
    rfl
  rw [lines] at linesShown
  have textWanted : options.format.writesText = true := by
    rw [both]
    rfl
  have linesWanted : options.format.writesRecords = true := by
    rw [both]
    rfl
  refine ⟨_, linesShown.readText linesWanted, ?_⟩
  have read : Recording.read (options.recordView records (some ended)) =
      options.recordingOf records (some ended) := by
    rw [StoreOptions.recordView_eq]
    exact Recording.read_recordText
      (options.isWhole_recordingOf whole (some ended))
  rw [read]
  refine ⟨?_, fun excused => ?_⟩
  · show some { options.header with
      startedAt := options.started.time.wholeSecond } = _
    rw [ClockTime.wholeSecond_eq startedWhole]
    rfl
  have room : options.header.room = options.room := rfl
  rw [room] at excused ⊢
  obtain ⟨nothing, lines, text, statistics⟩ :=
    repair_intact startedWhole sameDate rfl ordered excused
  refine ⟨nothing, ?_, ?_, ?_, fun wanted => ?_⟩
  · rw [lines]
    exact linesShown.readBytes linesWanted
  · rw [text]
    exact textShown.readBytes textWanted
  · rw [statistics, (recording.finalize ended).counted]
  · rw [statistics]
    exact recording.finalize_statistics finalized wanted

/-- The same participant leaving at the end of the day. -/
def adaLeft : CoreRecord :=
  .lifecycle ⟨.endOfDay, "ada", .left⟩

/-- A trace in which she comes in one second late, at the beginning of the
gap between her two records. -/
def lateTrace : String :=
  String.ofList (Trace.write defaultLogger .info
    [⟨(Date.epoch.atTime .midnight).later 1000,
      .info (connectedMessage "ada")⟩])

theorem readAll_lateTrace :
    readAll defaultLogger lateTrace =
      [⟨Date.epoch.atTime ⟨0, 0, 1, 0⟩,
        .lifecycle ⟨⟨0, 0, 1, 0⟩, "ada", .joined⟩⟩] := by
  decide +kernel

theorem isExcused_lateTrace (window : Window) (gaps : List Gap) :
    ∀ entry ∈ readAll defaultLogger lateTrace,
      entry.IsExcused window gaps [adaJoined, adaLeft] := by
  intro entry member
  rw [readAll_lateTrace, List.mem_singleton] at member
  have earlier : CoreRecord.lifecycle ⟨ClockTime.previousSecond ⟨0, 0, 1, 0⟩,
      "ada", .joined⟩ ∈ [adaJoined, adaLeft] := by
    decide
  rw [member]
  exact .inr (.inr (.inr ⟨_, rfl, earlier⟩))

theorem repair_of_intact_recording_of_lateTrace :
    let begun := (Store.new thorough).start (FileTree.empty .epoch)
    let ended := Date.epoch.atTime .endOfDay
    ∃ store written content,
      Store.Takes begun.store begun.files [adaJoined, adaLeft] store written ∧
      (store.finalize written ended).files.readText thorough.paths.records =
        .ok content ∧
      let recording := Recording.read content
      let window := Window.ofRecording recording .epoch none none
      let repaired :=
        recording.repair defaultLogger lateTrace window thorough.room
      repaired.recovered = 0 ∧
        (store.finalize written ended).files.readBytes
          thorough.paths.records = .ok (bytesOf repaired.recordLines) := by
  intro begun ended
  have startedWhole : thorough.started.time.IsWhole := by decide
  have sameDate : ended.date = thorough.started.date := rfl
  have whole : ∀ record ∈ [adaJoined, adaLeft], record.time.IsWhole := by
    decide
  have ordered : IsOrdered [adaJoined, adaLeft] := by decide
  have started : begun.result = .ok () :=
    (Store.start_of_hasRoom hasRoom_thorough).1
  obtain ⟨store, written, taken, finalized⟩ :=
    Store.exists_takes_of_hasRoom hasRoom_thorough [adaJoined, adaLeft] ended
  obtain ⟨content, read, -, repaired⟩ :=
    repair_of_intact_recording startedWhole sameDate whole ordered rfl started
      taken finalized defaultLogger lateTrace
  refine ⟨store, written, content, taken, read, ?_⟩
  obtain ⟨nothing, lines, -⟩ := repaired (isExcused_lateTrace _ _)
  exact ⟨nothing, lines⟩

end MeetingLog
