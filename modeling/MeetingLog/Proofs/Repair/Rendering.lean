import MeetingLog.Proofs.Repair.Intact

/-!
# Repaired recordings as a store would write them

A repaired recording is written in one go, while a store writes its log record
by record and counts as it goes. A store that is given the records of a
repaired recording nevertheless comes to the same files and the same
statistics, whatever the records are and in whatever order people come and go.
-/

namespace MeetingLog

open MeetingLog.Calendar
open MeetingLog.Files
open MeetingLog.Text
open MeetingLog.Trace

/-! ## A whole log -/

/-- What a store is asked for until a log is complete but for its end. -/
def logOf (records : List CoreRecord) : List StoreOperation :=
  .start :: records.map fun record => .append (.core record)

namespace StoreRun

variable {options : StoreOptions} {files : FileTree} {run : StoreRun}

theorem isRecording_next_append (record : CoreRecord)
    (recording :
      Store.IsRecording options run.store run.files run.accepted) :
    let reached := run.next (.append (.core record))
    reached.accepted = run.accepted ++ [record] ∧
      Store.IsRecording options reached.store reached.files
        reached.accepted := by
  intro reached
  obtain ⟨success, recordingToo⟩ := recording.appendCore record
  have accepted : reached.accepted = run.accepted ++ [record] := by
    show run.accepted ++ StoreOperation.accepted (.append (.core record))
      (run.store.appendCore run.files record).result = _
    rw [success]
    rfl
  rw [accepted]
  exact ⟨rfl, recordingToo⟩

/-- A run that is recording accepts every record it is given. -/
theorem isRecording_foldl_append (records : List CoreRecord)
    (recording :
      Store.IsRecording options run.store run.files run.accepted) :
    let reached :=
      (records.map fun record => .append (.core record)).foldl next run
    reached.accepted = run.accepted ++ records ∧
      Store.IsRecording options reached.store reached.files
        reached.accepted := by
  induction records generalizing run with
  | nil => simpa using recording
  | cons record others inductionHypothesis =>
      obtain ⟨accepted, recordingToo⟩ :=
        isRecording_next_append record recording
      obtain ⟨acceptedLater, recordingLater⟩ :=
        inductionHypothesis recordingToo
      rw [accepted, List.append_assoc] at acceptedLater
      exact ⟨acceptedLater, recordingLater⟩

theorem isRecording_logOf (records : List CoreRecord)
    (started : ((Store.new options).start files).result = .ok ()) :
    let reached := after options files (logOf records)
    reached.accepted = records ∧
      Store.IsRecording options reached.store reached.files records := by
  intro reached
  let first := next ⟨Store.new options, files, []⟩ .start
  have recordingFirst :
      Store.IsRecording options first.store first.files first.accepted :=
    Store.start_isRecording started
  obtain ⟨accepted, recording⟩ :=
    isRecording_foldl_append records recordingFirst
  have accepted_eq : reached.accepted = records := accepted
  refine ⟨accepted_eq, ?_⟩
  rw [← accepted_eq]
  exact recording

end StoreRun

/-! ## The repaired recording -/

section

variable {recording : Recording} {header : Header}
variable {logger trace : String} {window : Window}

/-- The store that would have written a recording, on the day of a window. -/
def Header.storeOptions (header : Header) (window : Window)
    (statistics : Bool) (directory : Path) : StoreOptions :=
  ⟨header.room, header.provider, .both, statistics, directory,
    window.moment header.startedAt⟩

theorem statistics_repair_of_header (known : recording.header = some header)
    (statistics : Bool) (directory : Path) :
    let repaired := recording.repair logger trace window header.room
    repaired.statistics =
      Store.finalStatistics
        (header.storeOptions window statistics directory) repaired.records
        (window.moment repaired.footer.endedAt) := by
  intro repaired
  obtain ⟨_, footer, core⟩ := recording
  subst known
  rfl

theorem recordLines_repair_of_header (known : recording.header = some header)
    (statistics : Bool) (directory : Path) :
    let repaired := recording.repair logger trace window header.room
    repaired.recordLines =
      (header.storeOptions window statistics directory).recordView
        repaired.records (some (window.moment repaired.footer.endedAt)) := by
  intro repaired
  obtain ⟨_, footer, core⟩ := recording
  subst known
  rfl

theorem textForm_repair_of_header (known : recording.header = some header)
    (statistics : Bool) (directory : Path) :
    let repaired := recording.repair logger trace window header.room
    repaired.textForm statistics =
      (header.storeOptions window statistics directory).textView
        repaired.records (some (window.moment repaired.footer.endedAt)) := by
  intro repaired
  have shown : (if statistics then some repaired.statistics else none) =
      Store.shownStatistics (header.storeOptions window statistics directory)
        (Store.finalStatistics
          (header.storeOptions window statistics directory) repaired.records
          (window.moment repaired.footer.endedAt)) := by
    rw [← statistics_repair_of_header known statistics directory]
    rfl
  obtain ⟨_, footer, core⟩ := recording
  subst known
  rw [Repaired.textForm, shown]
  rfl

end

/-- A store that is started for the room, the provider and the beginning in the
header of a recording, takes the records of the repaired recording and is
finalized when that one ends, has written what the repair writes, byte for
byte: the record file, the text file and the statistics. It takes every record,
whatever the recording and the trace were. -/
theorem store_writes_repaired_recording {recording : Recording}
    {header : Header} (known : recording.header = some header)
    (logger trace : String) (window : Window) (statistics : Bool)
    (directory : Path) {files : FileTree} :
    let repaired := recording.repair logger trace window header.room
    let options := header.storeOptions window statistics directory
    let ended := window.moment repaired.footer.endedAt
    let before := StoreRun.after options files (logOf repaired.records)
    let run := before.next (.finalize ended)
    ((Store.new options).start files).result = .ok () →
    (before.store.finalize before.files ended).result = .ok () →
    run.accepted = repaired.records ∧
      run.files.readBytes options.paths.records =
        .ok (bytesOf repaired.recordLines) ∧
      run.files.readBytes options.paths.text =
        .ok (bytesOf (repaired.textForm statistics)) ∧
      run.store.statistics = repaired.statistics ∧
      (statistics = true →
        run.files.readBytes options.paths.statistics =
          .ok (bytesOf repaired.statistics.artifact)) := by
  intro repaired options ended before run started finalized
  obtain ⟨accepted, recordingThen⟩ :=
    StoreRun.isRecording_logOf repaired.records started
  obtain ⟨textShown, linesShown⟩ := recordingThen.finalize_shows ended
  have counted : repaired.statistics =
      Store.finalStatistics options repaired.records ended :=
    statistics_repair_of_header known statistics directory
  refine ⟨?_, ?_, ?_, ?_, fun wanted => ?_⟩
  · show before.accepted ++ [] = repaired.records
    rw [List.append_nil]
    exact accepted
  · have lines : repaired.recordLines =
        options.recordView repaired.records (some ended) :=
      recordLines_repair_of_header known statistics directory
    rw [lines, StoreOptions.recordView, recordText_append]
    exact linesShown.readBytes rfl
  · have text : repaired.textForm statistics =
        options.textView repaired.records (some ended) :=
      textForm_repair_of_header known statistics directory
    rw [text]
    exact textShown.readBytes rfl
  · rw [counted]
    exact (recordingThen.finalize ended).counted
  · rw [counted]
    exact recordingThen.finalize_statistics finalized wanted

/-- A recording without its end, of somebody who left twice. -/
def leftTwice : Recording where
  header := some thorough.header
  footer := none
  core := [adaJoined, adaLeft, adaLeft]

theorem recovered_leftTwice :
    (leftTwice.repair defaultLogger spokenTrace
      (Window.ofRecording leftTwice .epoch none none) "standup").recovered =
        1 := by
  have sorted : sortByTime leftTwice.core = leftTwice.core :=
    sortByTime_of_isOrdered (by decide)
  show (recover defaultLogger (Window.ofRecording leftTwice .epoch none none)
    (sortByTime leftTwice.core) spokenTrace).length = 1
  rw [sorted, recover, readAll_spokenTrace]
  decide +kernel

theorem store_writes_repaired_leftTwice :
    let window := Window.ofRecording leftTwice .epoch none none
    let repaired :=
      leftTwice.repair defaultLogger spokenTrace window "standup"
    let before := StoreRun.after thorough (FileTree.empty .epoch)
      (logOf repaired.records)
    let run :=
      before.next (.finalize (window.moment repaired.footer.endedAt))
    repaired.recovered = 1 ∧
      run.accepted = repaired.records ∧
      run.files.readBytes thorough.paths.records =
        .ok (bytesOf repaired.recordLines) ∧
      run.files.readBytes thorough.paths.text =
        .ok (bytesOf (repaired.textForm true)) ∧
      run.files.readBytes thorough.paths.statistics =
        .ok (bytesOf repaired.statistics.artifact) := by
  intro window repaired before run
  have started : ((Store.new thorough).start
      (FileTree.empty .epoch)).result = .ok () :=
    (Store.start_of_hasRoom hasRoom_thorough).1
  have finalized : (before.store.finalize before.files
      (window.moment repaired.footer.endedAt)).result = .ok () :=
    ((StoreRun.stage_after hasRoom_thorough _).next hasRoom_thorough
      (.finalize _)).1
  have known : leftTwice.header = some thorough.header := rfl
  obtain ⟨accepted, lines, text, -, statistics⟩ :=
    store_writes_repaired_recording known defaultLogger spokenTrace window
      true (bytesOf "logs") started finalized
  exact ⟨recovered_leftTwice, accepted, lines, text, statistics rfl⟩

end MeetingLog
