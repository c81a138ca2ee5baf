import MeetingLog.Proofs.Repair.Intact
import MeetingLog.Proofs.Statistics.Tally
import MeetingLog.Proofs.Store.Visits

/-!
# Who counts records

A store counts the records that it is given while it is open, even if they
cannot be written, and a repair counts the records of the repaired recording.
Both count in the same way: what they say of a participant follows from the
records about this participant, so the order of the records of different
participants makes no difference.
-/

namespace MeetingLog

open MeetingLog.Calendar
open MeetingLog.Files
open MeetingLog.Trace

/-! ## In a store -/

/-- The record that an operation gives to a store, unless the store writes it by
itself. -/
def StoreOperation.given : StoreOperation → List CoreRecord
  | append (.core record) => [record]
  | _ => []

/-- The records that are given to the store of a run while it is open. -/
def StoreRun.given (run : StoreRun) : List StoreVisit → List CoreRecord
  | [] => []
  | visit :: visits =>
      (if run.store.isOpen then visit.operation.given else []) ++
        (run.visit visit).given visits

namespace Store

variable {store : Store} {files : FileTree}

theorem store_writeText (text : String) (store : Store) (files : FileTree) :
    (store.writeText text files).store = store := by
  unfold writeText
  split
  · rfl
  · split <;> rfl

theorem store_writeRecord (record : Record) (store : Store)
    (files : FileTree) : (store.writeRecord record files).store = store := by
  unfold writeRecord
  split
  · rfl
  · split <;> rfl

/-- Whatever is written, the store stays as it is. -/
theorem store_writeBoth (text : String) (record : Record) (store : Store)
    (files : FileTree) :
    ((store.writeText text files).andThen (writeRecord record)).store =
      store :=
  StoreStep.store_andThen (motive := (· = store))
    (store_writeText text store files)
    fun after files same => (store_writeRecord record after files).trans same

theorem statistics_start (store : Store) (files : FileTree) :
    (store.start files).store.statistics = store.statistics := by
  have prepared (files : FileTree) :
      (store.prepare files).store.statistics = store.statistics := by
    unfold prepare
    split <;> rfl
  unfold start
  split
  · refine StoreStep.store_andThen
      (motive := (·.statistics = store.statistics))
      (StoreStep.store_andThen (motive := (·.statistics = store.statistics))
        (StoreStep.store_andThen
          (motive := (·.statistics = store.statistics))
          (prepared files) fun after files same => ?_)
        fun after files same => ?_) fun after files same => same
    · unfold openText
      split
      · split <;> exact same
      · exact same
    · unfold openRecords
      split
      · split <;> exact same
      · exact same
  · rfl

/-- A record that is given to an open store is counted, whether it can be
written or not. -/
theorem statistics_appendCore (store : Store) (files : FileTree)
    (record : CoreRecord) :
    (store.appendCore files record).store.statistics =
      if store.isOpen then store.statistics.add record
      else store.statistics := by
  simp only [appendCore, isOpen_iff]
  split
  · exact congrArg Store.statistics (store_writeBoth _ _ _ files)
  · rfl

/-- A record that is given to an open store leaves it open. -/
theorem isOpen_appendCore (store : Store) (files : FileTree)
    (record : CoreRecord) :
    (store.appendCore files record).store.isOpen = store.isOpen := by
  unfold appendCore
  split
  · exact congrArg (·.phase == .recording) (store_writeBoth _ _ _ files)
  · rfl

/-- Finalizing notes the end of an open store and counts nothing. -/
theorem statistics_finalize (store : Store) (files : FileTree)
    (ended : Moment) :
    (store.finalize files ended).store.statistics =
      if store.isOpen then
        { store.statistics with endedAt := some ended.time }
      else store.statistics := by
  have written (shown : Option Statistics) :
      ((((store.ending ended).writeText (closingBlock ended shown)
        files).andThen (writeRecord (.footer ⟨ended.time⟩))).andThen
          writeStatistics).store = store.ending ended :=
    StoreStep.store_andThen (motive := (· = store.ending ended))
      (store_writeBoth _ _ _ files) fun after files same =>
        (writeStatistics_writesTo after files).2.trans same
  simp only [finalize, isOpen_iff]
  split
  · exact congrArg Store.statistics (written _)
  · rfl

end Store

namespace StoreRun

variable {run : StoreRun} {counted : List CoreRecord}

/-- An operation adds to what is counted the record that it gives to an open
store. -/
theorem counts_visit (counts : run.store.statistics.Counts counted)
    (visit : StoreVisit) :
    (run.visit visit).store.statistics.Counts
      (counted ++
        if run.store.isOpen then visit.operation.given else []) := by
  obtain ⟨disturb, operation⟩ := visit
  have idle (same : (run.visit ⟨disturb, operation⟩).store.statistics =
        run.store.statistics) (nothing : operation.given = []) :
      (run.visit ⟨disturb, operation⟩).store.statistics.Counts
        (counted ++ if run.store.isOpen then operation.given else []) := by
    rw [same, nothing, ite_self, List.append_nil]
    exact counts
  cases operation with
  | start => exact idle (Store.statistics_start run.store _) rfl
  | append record =>
      cases record with
      | header header => exact idle rfl rfl
      | footer footer => exact idle rfl rfl
      | core record =>
          show (run.store.appendCore _ record).store.statistics.Counts _
          rw [Store.statistics_appendCore]
          split
          · exact counts.add record
          · rw [List.append_nil]
            exact counts
  | finalize ended =>
      show (run.store.finalize _ ended).store.statistics.Counts
        (counted ++ if run.store.isOpen then [] else [])
      rw [Store.statistics_finalize, ite_self, List.append_nil]
      split
      · exact counts.frame rfl rfl rfl
      · exact counts

theorem counts_visitAll (counts : run.store.statistics.Counts counted)
    (visits : List StoreVisit) :
    (run.visitAll visits).store.statistics.Counts
      (counted ++ run.given visits) := by
  induction visits generalizing run counted with
  | nil =>
      rw [given, List.append_nil]
      exact counts
  | cons visit visits inductionHypothesis =>
      have later := inductionHypothesis (run.counts_visit counts visit)
      rwa [List.append_assoc] at later

/-- All records are counted that an open store is given. -/
theorem given_of_isOpen (opened : run.store.isOpen = true)
    (records : List CoreRecord) :
    run.given (records.map fun record =>
      .alone (.append (.core record))) = records := by
  induction records generalizing run with
  | nil => rfl
  | cons record records inductionHypothesis =>
      rw [List.map_cons, given, if_pos opened]
      exact congrArg (List.cons record) (inductionHypothesis
        ((Store.isOpen_appendCore run.store run.files record).trans opened))

/-- All records are counted that are given to a store which is started where
there is room. -/
theorem given_of_hasRoom {options : StoreOptions} {files : FileTree}
    (room : options.HasRoom files) (records : List CoreRecord) :
    (fresh options files).given (.alone .start ::
      records.map fun record => .alone (.append (.core record))) =
        records := by
  have recording :=
    Store.start_isRecording (Store.start_of_hasRoom room).1
  have opened : ((fresh options files).visit (.alone .start)).store.isOpen =
      true :=
    Store.isOpen_iff.2 recording.phase_eq
  exact given_of_isOpen opened records

end StoreRun

/-- What a store has counted, whatever it was asked for and whatever others did
to its files, and what a repair has counted follow for each participant from
the records about this participant. So records that are the same for every
participant are counted alike, in whatever order they stand. -/
theorem statistics_follow_own_records :
    (∀ (options : StoreOptions) (files : FileTree)
      (visits : List StoreVisit),
      ((StoreRun.fresh options files).visitAll visits).store.statistics.Counts
        ((StoreRun.fresh options files).given visits)) ∧
    (∀ (recording : Recording) (logger trace : String) (window : Window)
      (room : String),
      (recording.repair logger trace window room).statistics.Counts
        (recording.repair logger trace window room).records) ∧
    ∀ (statistics other : Statistics) (records others : List CoreRecord),
      statistics.Counts records → other.Counts others →
      (∀ identity, recordsOf identity others = recordsOf identity records) →
      other.participants = statistics.participants ∧
        other.totalTurns = statistics.totalTurns ∧
        other.totalWords = statistics.totalWords := by
  refine ⟨fun options files visits => ?_,
    fun recording logger trace window room => ?_,
    fun _ _ _ _ counts countsToo same => counts.eq_of_recordsOf countsToo same⟩
  · have begins : (StoreRun.fresh options files).store.statistics.Counts [] :=
      Statistics.counts_new _ _
    exact StoreRun.counts_visitAll begins visits
  · rw [statistics_repair]
    exact ((Statistics.counts_new _ _).addAll _).frame rfl rfl rfl

/-- What ada did. The number of words that stands with what she said is
wrong. -/
def adaRecords : List CoreRecord :=
  [adaJoined, .transcript ⟨.midnight, "ada", "good morning", 99⟩, adaLeft]

/-- What bob did, who is seen leaving before he joins. -/
def bobRecords : List CoreRecord :=
  [.lifecycle ⟨.endOfDay, "bob", .left⟩,
    .lifecycle ⟨.endOfDay, "bob", .joined⟩,
    .lifecycle ⟨.endOfDay, "bob", .left⟩]

/-- A store that is told of bob before it is told of ada counts what a repair
counts that puts ada in front. -/
theorem store_counts_like_repair :
    let visits := .alone .start ::
      (bobRecords ++ adaRecords).map fun record =>
        StoreVisit.alone (.append (.core record))
    let window : Window :=
      ⟨.epoch, Date.epoch.atTime .midnight, Date.epoch.atTime .endOfDay⟩
    let counted := ((StoreRun.fresh thorough (FileTree.empty .epoch)).visitAll
      visits).store.statistics
    let repaired := Recording.repair ⟨none, none, adaRecords ++ bobRecords⟩
      defaultLogger "" window "standup"
    repaired.statistics.participants = counted.participants ∧
      repaired.statistics.totalTurns = counted.totalTurns ∧
      repaired.statistics.totalWords = counted.totalWords := by
  intro visits window counted repaired
  obtain ⟨inStore, inRepair, alike⟩ := statistics_follow_own_records
  have given : (StoreRun.fresh thorough (FileTree.empty .epoch)).given visits =
      bobRecords ++ adaRecords :=
    StoreRun.given_of_hasRoom hasRoom_thorough _
  have nothing : recover defaultLogger window (adaRecords ++ bobRecords) "" =
      [] :=
    recover_of_excused fun _ member => absurd member List.not_mem_nil
  have records : repaired.records = adaRecords ++ bobRecords :=
    (records_repair_of_isOrdered (by decide) nothing).1
  have sameFor (identity : String) :
      recordsOf identity (adaRecords ++ bobRecords) =
        recordsOf identity (bobRecords ++ adaRecords) := by
    by_cases ada : identity = "ada"
    · subst ada
      rfl
    · have silent : recordsOf identity adaRecords = [] := by
        simp [recordsOf, adaRecords, adaJoined, adaLeft,
          CoreRecord.participant, Ne.symm ada]
      rw [recordsOf_append, recordsOf_append, silent, List.append_nil,
        List.nil_append]
  exact alike counted repaired.statistics (bobRecords ++ adaRecords)
    (adaRecords ++ bobRecords) (given ▸ inStore thorough _ visits)
    (records ▸ inRepair _ _ _ _ _) sameFor

end MeetingLog
