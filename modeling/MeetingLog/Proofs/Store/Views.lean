import MeetingLog.Proofs.Files.Vacancy
import MeetingLog.Proofs.Store.Contents

/-!
# The files of a store as views of one list

A store can be asked to start, to take a record and to finalize, in any order
and as often as one likes. What it answers depends on what it was asked before,
and all that its files and its statistics hold follows from the list of the
records it accepted: the text file is one form of the list, the record file
another one, and the statistics are counted over it.
-/

namespace MeetingLog

open MeetingLog.Calendar
open MeetingLog.Files
open MeetingLog.Text

/-! ## Operations -/

/-- What a store can be asked to do. -/
inductive StoreOperation where
  | start
  | append (record : Record)
  | finalize (ended : Moment)
  deriving DecidableEq, Repr

namespace StoreOperation

/-- The moment that an operation gives as the end of the log. -/
def ending? : StoreOperation → Option Moment
  | start => none
  | append _ => none
  | finalize ended => some ended

/-- The record that an operation got the store to take, if the store answered
so. -/
def accepted : StoreOperation → Except StoreError Unit → List CoreRecord
  | append (.core record), .ok () => [record]
  | _, _ => []

end StoreOperation

/-- The end of the log of a store that was asked for some operations: the first
one that was given after the store was started. -/
def endOf? (operations : List StoreOperation) : Option Moment :=
  (operations.dropWhile fun operation => operation ≠ .start).findSome?
    StoreOperation.ending?

/-- What a store answers that was asked for some operations before. -/
def StoreOperation.answer (earlier : List StoreOperation) :
    StoreOperation → Except StoreError Unit
  | .start => .ok ()
  | .append (.header _) => .error (.framing .header)
  | .append (.footer _) => .error (.framing .footer)
  | .append (.core _) =>
      if .start ∈ earlier ∧ endOf? earlier = none then .ok ()
      else .error .notOpen
  | .finalize _ => .ok ()

def Store.perform (store : Store) (files : FileTree) :
    StoreOperation → StoreStep
  | .start => store.start files
  | .append record => store.append files record
  | .finalize ended => store.finalize files ended

/-- A store that is being asked for operations, with the records it has
accepted. -/
structure StoreRun where
  store : Store
  files : FileTree
  accepted : List CoreRecord

namespace StoreRun

def next (run : StoreRun) (operation : StoreOperation) : StoreRun :=
  let step := run.store.perform run.files operation
  ⟨step.store, step.files, run.accepted ++ operation.accepted step.result⟩

/-- A new store, asked for operations one after another. -/
def after (options : StoreOptions) (files : FileTree)
    (operations : List StoreOperation) : StoreRun :=
  operations.foldl next ⟨Store.new options, files, []⟩

theorem after_append_singleton (options : StoreOptions) (files : FileTree)
    (operations : List StoreOperation) (operation : StoreOperation) :
    after options files (operations ++ [operation]) =
      (after options files operations).next operation := by
  rw [after, List.foldl_append]
  rfl

end StoreRun

/-! ## Starts and ends -/

theorem dropWhile_of_not_mem {operations : List StoreOperation}
    (notStarted : .start ∉ operations) :
    operations.dropWhile (fun operation => operation ≠ .start) = [] := by
  refine List.dropWhile_eq_nil_iff.2 fun other member => decide_eq_true ?_
  rintro rfl
  exact notStarted member

theorem endOf?_of_not_mem {operations : List StoreOperation}
    (notStarted : .start ∉ operations) : endOf? operations = none := by
  rw [endOf?, dropWhile_of_not_mem notStarted]
  rfl

theorem endOf?_append_start {operations : List StoreOperation}
    (notStarted : .start ∉ operations) :
    endOf? (operations ++ [.start]) = none := by
  rw [endOf?, List.dropWhile_append, dropWhile_of_not_mem notStarted]
  rfl

theorem endOf?_append_singleton {operations : List StoreOperation}
    (started : .start ∈ operations) (operation : StoreOperation) :
    endOf? (operations ++ [operation]) =
      (endOf? operations).or operation.ending? := by
  have behind : ¬ (operations.dropWhile fun operation =>
      operation ≠ .start).isEmpty = true := by
    intro empty
    have all := List.dropWhile_eq_nil_iff.1 (List.isEmpty_iff.1 empty)
    exact absurd rfl (of_decide_eq_true (all _ started))
  rw [endOf?, List.dropWhile_append, if_neg behind, List.findSome?_append]
  cases operation with
  | start => rfl
  | append record => rfl
  | finalize ended => rfl

/-! ## Room for the files -/

namespace StoreOptions

/-- `options.HasRoom files` means that the directory of the log can be created
and that none of the three files is there then, while each can be created. -/
structure HasRoom (options : StoreOptions) (files : FileTree) : Prop where
  directory : (files.createDirectories options.directory).2 = .ok ()
  text : (files.createDirectories options.directory).1.IsFree
    options.paths.text
  records : (files.createDirectories options.directory).1.IsFree
    options.paths.records
  statistics : (files.createDirectories options.directory).1.IsFree
    options.paths.statistics

/-- What is free once the directory was created was not there before. -/
theorem find_of_isFree {options : StoreOptions} {files : FileTree}
    {path : Path}
    (free : (files.createDirectories options.directory).1.IsFree path) :
    files.find path = .error .notFound :=
  (FileTree.createDirectories_onlyPrepares files options.directory).find free

/-- `options.Spares files` means that the paths of files which are not asked
for are free. -/
structure Spares (options : StoreOptions) (files : FileTree) : Prop where
  text : options.format.writesText = false → files.IsFree options.paths.text
  records : options.format.writesRecords = false →
    files.IsFree options.paths.records
  statistics : options.statistics = false →
    files.IsFree options.paths.statistics

theorem Spares.keep {options : StoreOptions} {files written : FileTree}
    (spares : options.Spares files)
    (fills : FileTree.OnlyFills files written) : options.Spares written where
  text unwanted := fills.isFree (spares.text unwanted)
  records unwanted := fills.isFree (spares.records unwanted)
  statistics unwanted := fills.isFree (spares.statistics unwanted)

end StoreOptions

namespace Store

variable {options : StoreOptions} {store : Store} {files : FileTree}
variable {records : List CoreRecord}

/-! ## Taking records -/

theorem write_onlyFills {file : OpenFile} {written : FileTree} {text : String}
    (success : file.write files text = .ok written) :
    FileTree.OnlyFills files written := by
  unfold OpenFile.write at success
  split at success
  · cases success
  · next appended =>
      obtain rfl := Except.ok.inj success
      exact FileTree.append_onlyFills appended

theorem writeText_onlyFills (store : Store) (files : FileTree)
    (text : String) :
    FileTree.OnlyFills files (store.writeText text files).files := by
  unfold writeText
  split
  · exact .refl files
  · split
    · exact .refl files
    · next success => exact write_onlyFills success

theorem writeRecord_onlyFills (store : Store) (files : FileTree)
    (record : Record) :
    FileTree.OnlyFills files (store.writeRecord record files).files := by
  unfold writeRecord
  split
  · exact .refl files
  · split
    · exact .refl files
    · next success => exact write_onlyFills success

theorem writeBoth_onlyFills (store : Store) (files : FileTree) (text : String)
    (record : Record) :
    FileTree.OnlyFills files
      ((store.writeText text files).andThen (writeRecord record)).files := by
  have first := writeText_onlyFills store files text
  unfold StoreStep.andThen
  split
  · exact first
  · exact first.trans (writeRecord_onlyFills _ _ record)

theorem appendCore_onlyFills (store : Store) (files : FileTree)
    (record : CoreRecord) :
    FileTree.OnlyFills files (store.appendCore files record).files := by
  unfold appendCore
  split
  · exact writeBoth_onlyFills _ files _ _
  · exact .refl files

/-! ## Starting where there is room -/

theorem start_of_isFree {path : Path} {text : String}
    (free : files.IsFree path) (notEmpty : text ≠ "") :
    ∃ written file, OpenFile.start files path text = (written, .ok file) ∧
      FileTree.WritesTo files written path := by
  obtain ⟨created, place, creation, -, empty, -⟩ := free.createFile
  obtain ⟨written, appended, -, -⟩ :=
    FileTree.append_file empty (bytesOf text)
  have started : OpenFile.start files path text =
      (written, .ok ⟨path, place⟩) := by
    rw [OpenFile.start, creation]
    simp only [OpenFile.write, appended]
  exact ⟨written, _, started, (start_ok notEmpty started).2⟩

theorem openText_of_isFree (store : Store)
    (free : files.IsFree store.options.paths.text) :
    ∃ file written,
      store.openText files =
        ⟨{ store with text := file }, written, [], .ok ()⟩ ∧
      FileTree.WritesTo files written store.options.paths.text ∧
      (store.options.format.writesText = false → written = files) := by
  rw [openText]
  split
  · next wanted =>
      have notEmpty : store.options.openingText ≠ "" :=
        append_ne_empty _ (by decide)
      obtain ⟨written, file, started, writes⟩ := start_of_isFree free notEmpty
      rw [started]
      refine ⟨some file, written, rfl, writes, fun unwanted => ?_⟩
      rw [wanted] at unwanted
      cases unwanted
  · exact ⟨store.text, files, rfl, .inl rfl, fun _ => rfl⟩

theorem openRecords_of_isFree (store : Store)
    (free : files.IsFree store.options.paths.records) :
    ∃ file written,
      store.openRecords files =
        ⟨{ store with records := file }, written, [], .ok ()⟩ ∧
      FileTree.WritesTo files written store.options.paths.records ∧
      (store.options.format.writesRecords = false → written = files) := by
  rw [openRecords]
  split
  · next wanted =>
      have notEmpty :
          (Record.header store.options.header).line ++ "\n" ≠ "" :=
        append_ne_empty _ (by decide)
      obtain ⟨written, file, started, writes⟩ := start_of_isFree free notEmpty
      rw [started]
      refine ⟨some file, written, rfl, writes, fun unwanted => ?_⟩
      rw [wanted] at unwanted
      cases unwanted
  · exact ⟨store.records, files, rfl, .inl rfl, fun _ => rfl⟩

/-- Where there is room, a new store starts, and the statistics and what is not
asked for still have room. -/
theorem start_of_hasRoom (room : options.HasRoom files) :
    ((Store.new options).start files).result = .ok () ∧
      options.Spares ((Store.new options).start files).files ∧
      ((Store.new options).start files).files.IsFree
        options.paths.statistics := by
  obtain ⟨directory, text, lines, statistics⟩ := room
  generalize prepared_eq : files.createDirectories options.directory =
    prepared at directory text lines statistics
  obtain ⟨prepared, outcome⟩ := prepared
  obtain rfl : outcome = .ok () := directory
  have apart := options.text_apart_records
  obtain ⟨textFile, between, opened, writes, unwanted⟩ :=
    openText_of_isFree (Store.new options) text
  obtain ⟨recordFile, written, openedToo, writesToo, unwantedToo⟩ :=
    openRecords_of_isFree { Store.new options with text := textFile }
      (lines.keep writes apart.symm)
  have steps : (Store.new options).start files =
      beginRecording
        { Store.new options with text := textFile, records := recordFile }
        written := by
    have prepare_eq : (Store.new options).prepare files =
        ⟨Store.new options, prepared, [], .ok ()⟩ := by
      have directories_eq : files.createDirectories
          (Store.new options).options.directory = (prepared, .ok ()) :=
        prepared_eq
      rw [prepare, directories_eq]
    have created : (Store.new options).phase = .created := rfl
    rw [start, if_pos created, prepare_eq]
    simp only [StoreStep.andThen, opened, openedToo, List.nil_append]
  have statisticsFree : written.IsFree options.paths.statistics :=
    (statistics.keep writes options.text_apart_statistics.symm).keep writesToo
      options.records_apart_statistics.symm
  rw [steps]
  refine ⟨rfl, ⟨fun unwantedText => ?_, fun unwantedRecords => ?_,
    fun _ => statisticsFree⟩, statisticsFree⟩
  · obtain rfl := unwanted unwantedText
    exact text.keep writesToo apart
  · obtain rfl := unwantedToo unwantedRecords
    exact lines.keep writes apart.symm

/-! ## Finalizing where there is room -/

theorem writeStatistics_of_isFree (store : Store)
    (free : files.IsFree store.options.paths.statistics) :
    (store.writeStatistics files).result = .ok () ∧
      (store.options.statistics = true →
        (store.writeStatistics files).files.readText
          store.options.paths.statistics = .ok store.statistics.artifact) ∧
      (store.options.statistics = false →
        (store.writeStatistics files).files = files) := by
  obtain ⟨success, content⟩ := free.writeText store.statistics.artifact
  rw [writeStatistics]
  split
  · next wanted =>
      simp only [writeArtifact]
      generalize files.writeText store.options.paths.statistics
        store.statistics.artifact = reached at success content
      obtain ⟨written, outcome⟩ := reached
      obtain rfl : outcome = .ok () := success
      refine ⟨rfl, fun _ => content, fun unwanted => ?_⟩
      rw [wanted] at unwanted
      cases unwanted
  · next unwanted =>
      exact ⟨rfl, fun wanted => absurd wanted unwanted, fun _ => rfl⟩

/-- A store that is recording finalizes with success where there is room for
the statistics. -/
theorem IsRecording.finalize_of_isFree
    (recording : IsRecording options store files records)
    (spares : options.Spares files)
    (free : files.IsFree options.paths.statistics) (ended : Moment) :
    (store.finalize files ended).result = .ok () ∧
      options.Spares (store.finalize files ended).files ∧
      (options.statistics = true →
        (store.finalize files ended).files.readText
          options.paths.statistics =
            .ok (finalStatistics options records ended).artifact) := by
  obtain ⟨text, written, success, -, -, finalized⟩ :=
    recording.finalize_eq ended
  obtain ⟨rfl, -, counted, -, -⟩ := recording
  -- The end is appended to files that exist, so what is free stays free.
  have fills : FileTree.OnlyFills files written := by
    have both := writeBoth_onlyFills (store.ending ended) files text
      (.footer ⟨ended.time⟩)
    rw [success] at both
    exact both
  have sparesToo := spares.keep fills
  obtain ⟨writes, -⟩ :=
    writeStatistics_writesTo (store.ending ended) written
  obtain ⟨result, content, unwanted⟩ :=
    writeStatistics_of_isFree (store.ending ended) (fills.isFree free)
  have statistics_eq : (store.ending ended).statistics =
      finalStatistics store.options records ended := by
    show ({ store.statistics with endedAt := _ } : Statistics) = _
    rw [counted]
    rfl
  rw [statistics_eq] at content
  rw [finalized]
  refine ⟨result, ⟨fun unwantedText => ?_, fun unwantedRecords => ?_,
    fun unwantedStatistics => ?_⟩, content⟩
  · exact (sparesToo.text unwantedText).keep writes
      store.options.text_apart_statistics
  · exact (sparesToo.records unwantedRecords).keep writes
      store.options.records_apart_statistics
  · show ((store.ending ended).writeStatistics written).files.IsFree _
    rw [unwanted unwantedStatistics]
    exact sparesToo.statistics unwantedStatistics

/-- A store that is recording takes all records it is given, and touches nothing
that is free. -/
theorem IsRecording.exists_takes
    (recording : IsRecording options store files records)
    (spares : options.Spares files)
    (free : files.IsFree options.paths.statistics)
    (more : List CoreRecord) :
    ∃ after written, Takes store files more after written ∧
      options.Spares written ∧ written.IsFree options.paths.statistics := by
  induction more generalizing store files records with
  | nil => exact ⟨store, files, .nothing store files, spares, free⟩
  | cons record others inductionHypothesis =>
      obtain ⟨success, later⟩ := recording.appendCore record
      have fills := appendCore_onlyFills store files record
      obtain ⟨after, written, taken, kept⟩ :=
        inductionHypothesis later (spares.keep fills) (fills.isFree free)
      exact ⟨after, written, .record success taken, kept⟩

/-- Where there is room a store is started, takes all records and is finalized
without a failure. -/
theorem exists_takes_of_hasRoom (room : options.HasRoom files)
    (records : List CoreRecord) (ended : Moment) :
    ∃ after written,
      Takes ((Store.new options).start files).store
        ((Store.new options).start files).files records after written ∧
      (after.finalize written ended).result = .ok () := by
  obtain ⟨started, spares, free⟩ := start_of_hasRoom room
  have recording := start_isRecording started
  obtain ⟨after, written, taken, sparesToo, freeToo⟩ :=
    recording.exists_takes spares free records
  exact ⟨after, written, taken, ((recording.takes taken).finalize_of_isFree
    sparesToo freeToo ended).1⟩

end Store

/-! ## Runs -/

namespace StoreRun

open MeetingLog.Store

/-- `Stage options files operations run` means that a run which began with a
new store and with `files` has reached what it has to reach by the operations:
nothing has been done before the store is started, until its end the store
records what it accepts, and from then on it stays as it is. -/
inductive Stage (options : StoreOptions) (files : FileTree)
    (operations : List StoreOperation) (run : StoreRun) : Prop where
  | created (notStarted : .start ∉ operations)
      (untouched : run = ⟨Store.new options, files, []⟩)
  | recording (started : .start ∈ operations)
      (unended : endOf? operations = none)
      (recording : IsRecording options run.store run.files run.accepted)
      (spares : options.Spares run.files)
      (free : run.files.IsFree options.paths.statistics)
  | finalized (ended : Moment) (started : .start ∈ operations)
      (endedThen : endOf? operations = some ended)
      (finalized :
        IsFinalized options run.store run.files run.accepted ended)
      (spares : options.Spares run.files)
      (statistics : options.statistics = true →
        run.files.readText options.paths.statistics =
          .ok (finalStatistics options run.accepted ended).artifact)

variable {options : StoreOptions} {files : FileTree}
variable {operations : List StoreOperation} {run : StoreRun}

/-- An operation that a store passes over leaves the run as it is. -/
theorem next_of_performed {operation : StoreOperation}
    {notes : List Trace.Note} {result : Except StoreError Unit}
    (performed : run.store.perform run.files operation =
      ⟨run.store, run.files, notes, result⟩)
    (nothing : operation.accepted result = []) :
    run.next operation = run := by
  rw [next, performed]
  simp only [nothing, List.append_nil]

theorem start_of_phase_ne (notCreated : run.store.phase ≠ .created) :
    run.store.perform run.files .start =
      ⟨run.store, run.files, [], .ok ()⟩ := by
  rw [Store.perform, start, if_neg notCreated]
  rfl

theorem Stage.next_of_created (room : options.HasRoom files)
    (notStarted : .start ∉ operations) (operation : StoreOperation) :
    (Store.perform (Store.new options) files operation).result =
        operation.answer operations ∧
      Stage options files (operations ++ [operation])
        (next ⟨Store.new options, files, []⟩ operation) := by
  have notYet (other : StoreOperation) (different : other ≠ .start) :
      .start ∉ operations ++ [other] := by
    rw [List.mem_append, List.mem_singleton, not_or]
    exact ⟨notStarted, different.symm⟩
  cases operation with
  | start =>
      obtain ⟨result, spares, free⟩ := start_of_hasRoom room
      exact ⟨result,
        .recording (List.mem_append_right _ (List.mem_singleton_self _))
          (endOf?_append_start notStarted) (start_isRecording result) spares
          free⟩
  | append record =>
      cases record with
      | header header => exact ⟨rfl, .created (notYet _ nofun) rfl⟩
      | footer footer => exact ⟨rfl, .created (notYet _ nofun) rfl⟩
      | core record =>
          refine ⟨?_, .created (notYet _ nofun) rfl⟩
          rw [StoreOperation.answer, if_neg (fun both => notStarted both.1)]
          rfl
  | finalize ended => exact ⟨rfl, .created (notYet _ nofun) rfl⟩

theorem Stage.next_of_recording (started : .start ∈ operations)
    (unended : endOf? operations = none)
    (recording : IsRecording options run.store run.files run.accepted)
    (spares : options.Spares run.files)
    (free : run.files.IsFree options.paths.statistics)
    (operation : StoreOperation) :
    (run.store.perform run.files operation).result =
        operation.answer operations ∧
      Stage options files (operations ++ [operation])
        (run.next operation) := by
  have startedToo : .start ∈ operations ++ [operation] :=
    List.mem_append_left _ started
  have ends : endOf? (operations ++ [operation]) = operation.ending? := by
    rw [endOf?_append_singleton started, unended, Option.none_or]
  have skips (same : run.next operation = run)
      (noEnd : operation.ending? = none) :
      Stage options files (operations ++ [operation]) (run.next operation) := by
    rw [same]
    exact .recording startedToo (ends.trans noEnd) recording spares free
  cases operation with
  | start =>
      have notCreated : run.store.phase ≠ .created := by
        rw [recording.phase_eq]
        decide
      have performed := start_of_phase_ne notCreated
      refine ⟨?_, skips (next_of_performed performed rfl) rfl⟩
      rw [performed]
      rfl
  | append record =>
      cases record with
      | header header => exact ⟨rfl, skips (next_of_performed rfl rfl) rfl⟩
      | footer footer => exact ⟨rfl, skips (next_of_performed rfl rfl) rfl⟩
      | core record =>
          obtain ⟨result, recordingToo⟩ := recording.appendCore record
          have fills := appendCore_onlyFills run.store run.files record
          refine ⟨?_, .recording startedToo ends ?_ (spares.keep fills)
            (fills.isFree free)⟩
          · rw [StoreOperation.answer, if_pos ⟨started, unended⟩]
            exact result
          · show IsRecording options _ _ (run.accepted ++
              StoreOperation.accepted (.append (.core record))
                (run.store.appendCore run.files record).result)
            rw [result]
            exact recordingToo
  | finalize ended =>
      obtain ⟨result, sparesToo, content⟩ :=
        recording.finalize_of_isFree spares free ended
      have accepted : (run.next (.finalize ended)).accepted =
          run.accepted :=
        List.append_nil _
      refine ⟨result, .finalized ended startedToo ends ?_ sparesToo ?_⟩
      · rw [accepted]
        exact recording.finalize ended
      · rw [accepted]
        exact content

theorem Stage.next_of_finalized {ended : Moment}
    (started : .start ∈ operations)
    (endedThen : endOf? operations = some ended)
    (finalized : IsFinalized options run.store run.files run.accepted ended)
    (spares : options.Spares run.files)
    (statistics : options.statistics = true →
      run.files.readText options.paths.statistics =
        .ok (finalStatistics options run.accepted ended).artifact)
    (operation : StoreOperation) :
    (run.store.perform run.files operation).result =
        operation.answer operations ∧
      Stage options files (operations ++ [operation])
        (run.next operation) := by
  have ends : endOf? (operations ++ [operation]) = some ended := by
    rw [endOf?_append_singleton started, endedThen, Option.some_or]
  have skips (same : run.next operation = run) :
      Stage options files (operations ++ [operation]) (run.next operation) := by
    rw [same]
    exact .finalized ended (List.mem_append_left _ started) ends finalized
      spares statistics
  cases operation with
  | start =>
      have notCreated : run.store.phase ≠ .created := by
        rw [finalized.phase_eq]
        decide
      have performed := start_of_phase_ne notCreated
      refine ⟨?_, skips (next_of_performed performed rfl)⟩
      rw [performed]
      rfl
  | append record =>
      cases record with
      | header header => exact ⟨rfl, skips (next_of_performed rfl rfl)⟩
      | footer footer => exact ⟨rfl, skips (next_of_performed rfl rfl)⟩
      | core record =>
          have performed : run.store.perform run.files
              (.append (.core record)) =
              ⟨run.store, run.files, [], .error .notOpen⟩ := by
            show run.store.appendCore run.files record = _
            rw [appendCore, if_neg (by rw [finalized.phase_eq]; decide)]
          have hasEnded : ¬ (.start ∈ operations ∧
              endOf? operations = none) := by
            rintro ⟨-, unended⟩
            rw [endedThen] at unended
            cases unended
          refine ⟨?_, skips (next_of_performed performed rfl)⟩
          rw [performed, StoreOperation.answer, if_neg hasEnded]
  | finalize again =>
      have performed : run.store.perform run.files (.finalize again) =
          ⟨run.store, run.files,
            [Trace.Note.debug
              "finalize on a store that is not open, ignoring"], .ok ()⟩ := by
        rw [Store.perform, Store.finalize,
          if_neg (by rw [finalized.phase_eq]; decide)]
      refine ⟨?_, skips (next_of_performed performed rfl)⟩
      rw [performed]
      rfl

/-- A store answers each operation as it has to, and goes on to the next
stage. -/
theorem Stage.next (room : options.HasRoom files)
    (stage : Stage options files operations run)
    (operation : StoreOperation) :
    (run.store.perform run.files operation).result =
        operation.answer operations ∧
      Stage options files (operations ++ [operation])
        (run.next operation) := by
  cases stage with
  | created notStarted untouched =>
      subst untouched
      exact next_of_created room notStarted operation
  | recording started unended recording spares free =>
      exact next_of_recording started unended recording spares free operation
  | finalized ended started endedThen finalized spares statistics =>
      exact next_of_finalized started endedThen finalized spares statistics
        operation

theorem stage_after (room : options.HasRoom files)
    (operations : List StoreOperation) :
    Stage options files operations (after options files operations) := by
  induction operations using List.reverseRecOn with
  | nil => exact .created List.not_mem_nil rfl
  | append_singleton earlier operation inductionHypothesis =>
      rw [after_append_singleton]
      exact (inductionHypothesis.next room operation).2

/-- What a run has accepted it was given. -/
theorem mem_operations_of_accepted {record : CoreRecord}
    (member : record ∈ (after options files operations).accepted) :
    .append (.core record) ∈ operations := by
  induction operations using List.reverseRecOn with
  | nil => exact absurd member List.not_mem_nil
  | append_singleton earlier operation inductionHypothesis =>
      rw [after_append_singleton] at member
      rcases List.mem_append.1 member with (before | now)
      · exact List.mem_append_left _ (inductionHypothesis before)
      · refine List.mem_append_right _ (List.mem_singleton.2 ?_)
        generalize (Store.perform _ _ operation).result = result at now
        unfold StoreOperation.accepted at now
        split at now
        · rw [List.mem_singleton.1 now]
        · exact absurd now List.not_mem_nil

end StoreRun

/-! ## Views -/

namespace StoreOptions

/-- The text file for some records, complete if an end is given. -/
def textView (options : StoreOptions) (records : List CoreRecord)
    (ended : Option Moment) : String :=
  options.openingText ++ coreText records ++
    (ended.map fun ended =>
      closingBlock ended (Store.shownStatistics options
        (Store.finalStatistics options records ended))).getD ""

/-- The record file for some records, complete if an end is given. -/
def recordView (options : StoreOptions) (records : List CoreRecord)
    (ended : Option Moment) : String :=
  recordText (.header options.header :: records.map Record.core ++
    (ended.map fun ended => Record.footer ⟨ended.time⟩).toList)

/-- The statistics of some records, complete if an end is given. -/
def statisticsView (options : StoreOptions) (records : List CoreRecord)
    (ended : Option Moment) : Statistics :=
  { options.statisticsOf records with endedAt := ended.map Moment.time }

/-- The recording in the record file of a store; times are known to the
second. -/
def recordingOf (options : StoreOptions) (records : List CoreRecord)
    (ended : Option Moment) : Recording where
  header := some
    { options.header with startedAt := options.started.time.wholeSecond }
  footer := ended.map fun ended => ⟨ended.time.wholeSecond⟩
  core := records

theorem isWhole_recordingOf (options : StoreOptions)
    {records : List CoreRecord}
    (whole : ∀ record ∈ records, record.time.IsWhole)
    (ended : Option Moment) : (options.recordingOf records ended).IsWhole := by
  refine ⟨?_, ?_, whole⟩
  · rintro header ⟨⟩
    exact ClockTime.isWhole_wholeSecond options.started.time
  · intro footer found
    obtain ⟨moment, -, rfl⟩ := Option.map_eq_some_iff.1 found
    exact ClockTime.isWhole_wholeSecond moment.time

/-- Fractions of seconds are not written. -/
theorem recordView_eq (options : StoreOptions) (records : List CoreRecord)
    (ended : Option Moment) :
    options.recordView records ended =
      recordText (options.recordingOf records ended).records := by
  have opening : (Record.header options.header).line =
      (Record.header { options.header with
        startedAt := options.started.time.wholeSecond }).line :=
    (Record.line_header_wholeSecond options.header).symm
  have listed : (options.recordingOf records ended).records =
      .header { options.header with
          startedAt := options.started.time.wholeSecond } ::
        (records.map Record.core ++
          (ended.map fun ended =>
            Record.footer ⟨ended.time.wholeSecond⟩).toList) := by
    cases ended <;> rfl
  rw [recordView, listed, List.cons_append, recordText_cons, recordText_cons,
    recordText_append, recordText_append, opening]
  cases ended with
  | none => rfl
  | some ended =>
      show _ ++ (_ ++ recordText [_]) = _ ++ (_ ++ recordText [_])
      rw [recordText_singleton, recordText_singleton,
        Record.line_footer_wholeSecond]

/-- The record file is read back; of the end its second is known. -/
theorem read_recordView {options : StoreOptions} {records : List CoreRecord}
    (startedWhole : options.started.time.IsWhole)
    (whole : ∀ record ∈ records, record.time.IsWhole)
    (ended : Option Moment) :
    Recording.read (options.recordView records ended) =
      ⟨some options.header, ended.map fun ended => ⟨ended.time.wholeSecond⟩,
        records⟩ := by
  rw [recordView_eq,
    Recording.read_recordText (options.isWhole_recordingOf whole ended),
    recordingOf, ClockTime.wholeSecond_eq startedWhole]
  rfl

end StoreOptions

namespace StoreRun

open MeetingLog.Store

variable {options : StoreOptions} {files : FileTree}
variable {operations : List StoreOperation} {run : StoreRun}

theorem Stage.readText_text (room : options.HasRoom files)
    (stage : Stage options files operations run) :
    run.files.readText options.paths.text =
      if options.format.writesText = true ∧ .start ∈ operations then
        .ok (options.textView run.accepted (endOf? operations))
      else .error .notFound := by
  have spared (unwanted : ¬ options.format.writesText = true)
      (spares : options.Spares run.files) :
      run.files.readText options.paths.text = .error .notFound :=
    FileTree.readText_of_find (spares.text (by simpa using unwanted)).1
  cases stage with
  | created notStarted untouched =>
      subst untouched
      rw [if_neg (fun both => notStarted both.2)]
      exact FileTree.readText_of_find
        (StoreOptions.find_of_isFree room.text)
  | recording started unended recording spares free =>
      by_cases wanted : options.format.writesText = true
      · have content : options.textView run.accepted none =
            options.textContent run.accepted := String.append_empty
        rw [if_pos ⟨wanted, started⟩, unended, content]
        exact recording.text.readText wanted
      · rw [if_neg (fun both => wanted both.1)]
        exact spared wanted spares
  | finalized ended started endedThen finalized spares statistics =>
      by_cases wanted : options.format.writesText = true
      · rw [if_pos ⟨wanted, started⟩, endedThen]
        exact finalized.text wanted
      · rw [if_neg (fun both => wanted both.1)]
        exact spared wanted spares

theorem Stage.readText_records (room : options.HasRoom files)
    (stage : Stage options files operations run) :
    run.files.readText options.paths.records =
      if options.format.writesRecords = true ∧ .start ∈ operations then
        .ok (options.recordView run.accepted (endOf? operations))
      else .error .notFound := by
  have spared (unwanted : ¬ options.format.writesRecords = true)
      (spares : options.Spares run.files) :
      run.files.readText options.paths.records = .error .notFound :=
    FileTree.readText_of_find (spares.records (by simpa using unwanted)).1
  cases stage with
  | created notStarted untouched =>
      subst untouched
      rw [if_neg (fun both => notStarted both.2)]
      exact FileTree.readText_of_find
        (StoreOptions.find_of_isFree room.records)
  | recording started unended recording spares free =>
      by_cases wanted : options.format.writesRecords = true
      · have content : options.recordView run.accepted none =
            options.recordContent run.accepted := by
          rw [StoreOptions.recordView, StoreOptions.recordContent]
          exact congrArg recordText (List.append_nil _)
        rw [if_pos ⟨wanted, started⟩, unended, content]
        exact recording.lines.readText wanted
      · rw [if_neg (fun both => wanted both.1)]
        exact spared wanted spares
  | finalized ended started endedThen finalized spares statistics =>
      by_cases wanted : options.format.writesRecords = true
      · rw [if_pos ⟨wanted, started⟩, endedThen, StoreOptions.recordView,
          recordText_append]
        exact finalized.lines wanted
      · rw [if_neg (fun both => wanted both.1)]
        exact spared wanted spares

theorem Stage.readText_statistics (room : options.HasRoom files)
    (stage : Stage options files operations run) :
    run.files.readText options.paths.statistics =
      if options.statistics = true ∧ endOf? operations ≠ none then
        .ok (options.statisticsView run.accepted (endOf? operations)).artifact
      else .error .notFound := by
  cases stage with
  | created notStarted untouched =>
      subst untouched
      rw [if_neg (fun both => both.2 (endOf?_of_not_mem notStarted))]
      exact FileTree.readText_of_find
        (StoreOptions.find_of_isFree room.statistics)
  | recording started unended recording spares free =>
      rw [if_neg (fun both => both.2 unended)]
      exact FileTree.readText_of_find free.1
  | finalized ended started endedThen finalized spares statistics =>
      by_cases wanted : options.statistics = true
      · rw [if_pos ⟨wanted, by rw [endedThen]; nofun⟩, endedThen]
        exact statistics wanted
      · rw [if_neg (fun both => wanted both.1)]
        exact FileTree.readText_of_find
          (spares.statistics (by simpa using wanted)).1

theorem Stage.statistics_eq (stage : Stage options files operations run) :
    run.store.statistics =
      options.statisticsView run.accepted (endOf? operations) := by
  cases stage with
  | created notStarted untouched =>
      subst untouched
      rw [endOf?_of_not_mem notStarted]
      rfl
  | recording started unended recording spares free =>
      have unknown := endedAt_statisticsOf options run.accepted
      rw [unended, recording.counted, StoreOptions.statisticsView,
        Option.map_none, ← unknown]
  | finalized ended started endedThen finalized spares statistics =>
      rw [endedThen, finalized.counted]
      rfl

end StoreRun

/-- The files of a store are views of the list of the records it has accepted,
whatever it was asked for and in whatever order, and it answers each operation
by what it was asked before. -/
theorem store_files_are_views_of_accepted (options : StoreOptions)
    (files : FileTree) (room : options.HasRoom files)
    (startedWhole : options.started.time.IsWhole)
    (operations : List StoreOperation)
    (whole : ∀ record, .append (.core record) ∈ operations →
      record.time.IsWhole) :
    let run := StoreRun.after options files operations
    let ended := endOf? operations
    (∀ operation, (run.store.perform run.files operation).result =
      operation.answer operations) ∧
    run.files.readText options.paths.text =
      (if options.format.writesText = true ∧ .start ∈ operations then
        .ok (options.textView run.accepted ended)
      else .error .notFound) ∧
    run.files.readText options.paths.records =
      (if options.format.writesRecords = true ∧ .start ∈ operations then
        .ok (options.recordView run.accepted ended)
      else .error .notFound) ∧
    Recording.read (options.recordView run.accepted ended) =
      ⟨some options.header, ended.map fun ended => ⟨ended.time.wholeSecond⟩,
        run.accepted⟩ ∧
    run.store.statistics = options.statisticsView run.accepted ended ∧
    run.files.readText options.paths.statistics =
      (if options.statistics = true ∧ ended ≠ none then
        .ok (options.statisticsView run.accepted ended).artifact
      else .error .notFound) := by
  intro run ended
  have stage : StoreRun.Stage options files operations run :=
    StoreRun.stage_after room operations
  have read : Recording.read (options.recordView run.accepted ended) =
      ⟨some options.header, ended.map fun ended => ⟨ended.time.wholeSecond⟩,
        run.accepted⟩ :=
    StoreOptions.read_recordView startedWhole
      (fun record member =>
        whole record (StoreRun.mem_operations_of_accepted member)) ended
  exact ⟨fun operation => (stage.next room operation).1,
    stage.readText_text room, stage.readText_records room, read,
    stage.statistics_eq, stage.readText_statistics room⟩

/-- A store that writes all its files into a directory that is not there
yet. -/
def thorough : StoreOptions :=
  ⟨"standup", "deepgram", .both, true, bytesOf "logs",
    Date.epoch.atTime .midnight⟩

theorem hasRoom_thorough : thorough.HasRoom (FileTree.empty .epoch) where
  directory := by decide +kernel
  text := FileTree.isFree_iff.2
    ⟨bytesOf "logs/protocol_standup_19700101_000000.txt", by decide +kernel⟩
  records := FileTree.isFree_iff.2
    ⟨bytesOf "logs/protocol_standup_19700101_000000.jsonl",
      by decide +kernel⟩
  statistics := FileTree.isFree_iff.2
    ⟨bytesOf "logs/protocol_standup_19700101_000000_stats.json",
      by decide +kernel⟩

/-- A participant coming in. -/
def adaJoined : CoreRecord :=
  .lifecycle ⟨.midnight, "ada", .joined⟩

/-- Operations of which most come too early or too late. -/
def misplaced : List StoreOperation :=
  [.append (.core adaJoined), .start, .append (.core adaJoined), .start,
    .finalize (Date.epoch.atTime .endOfDay), .append (.core adaJoined),
    .start, .finalize (Date.epoch.atTime .midnight)]

/-- Only one record of the misplaced operations is accepted, and the files are
those of this record. -/
theorem store_files_of_misplaced :
    let run := StoreRun.after thorough (FileTree.empty .epoch) misplaced
    let ended := some (Date.epoch.atTime .endOfDay)
    run.accepted = [adaJoined] ∧
      run.files.readText thorough.paths.text =
        .ok (thorough.textView [adaJoined] ended) ∧
      run.files.readText thorough.paths.records =
        .ok (thorough.recordView [adaJoined] ended) ∧
      run.files.readText thorough.paths.statistics =
        .ok (thorough.statisticsView [adaJoined] ended).artifact := by
  intro run ended
  have accepted : run.accepted = [adaJoined] := by decide +kernel
  have endOf : endOf? misplaced = ended := by decide +kernel
  have whole (record : CoreRecord)
      (member : .append (.core record) ∈ misplaced) :
      record.time.IsWhole := by
    have only : record = adaJoined := by simpa [misplaced] using member
    rw [only]
    decide
  obtain ⟨-, text, records, -, -, statistics⟩ :=
    store_files_are_views_of_accepted thorough (FileTree.empty .epoch)
      hasRoom_thorough (by decide) misplaced whole
  rw [show (StoreRun.after thorough _ misplaced).accepted = _ from accepted,
    endOf] at text records statistics
  exact ⟨accepted, text, records, statistics⟩

end MeetingLog
