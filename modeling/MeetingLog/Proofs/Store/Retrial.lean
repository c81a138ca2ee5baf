import MeetingLog.Proofs.Store.Visits

/-!
# Starting again

A store whose start has failed may be started again. Until that succeeds it
takes nothing and writes nothing but what the attempts write; from then on it
cannot be told from a store whose first start succeeded, neither by its answers
nor by its files.
-/

namespace MeetingLog

open MeetingLog.Calendar
open MeetingLog.Files
open MeetingLog.Text

namespace Store

variable {options : StoreOptions} {store : Store} {files : FileTree}
variable {records : List CoreRecord}

/-! ## Statistics where they can be written -/

/-- What is kept when something is appended to a file is kept when something is
written to both files. -/
theorem writeBoth_keeps {motive : FileTree → Prop}
    (kept : ∀ {tree written : FileTree} {place : Path}
      {bytes : List UInt8}, motive tree →
        tree.append place bytes = .ok written → motive written)
    (begins : motive files) (store : Store) (text : String)
    (record : Record) :
    motive ((store.writeText text files).andThen
      (writeRecord record)).files := by
  have keptToo {file : OpenFile} {tree written : FileTree} {text : String}
      (holds : motive tree) (success : file.write tree text = .ok written) :
      motive written := by
    unfold OpenFile.write at success
    split at success
    · cases success
    · next appended =>
        obtain rfl := Except.ok.inj success
        exact kept holds appended
  have first : motive (store.writeText text files).files := by
    unfold writeText
    split
    · exact begins
    · split
      · exact begins
      · next success => exact keptToo begins success
  unfold StoreStep.andThen
  split
  · exact first
  · show motive (writeRecord record _ _).files
    unfold writeRecord
    split
    · exact first
    · split
      · exact first
      · next success => exact keptToo first success

theorem writeStatistics_of_isWritable
    (writable : store.options.statistics = true →
      files.IsWritable store.options.paths.statistics) :
    (store.writeStatistics files).result = .ok () := by
  rw [writeStatistics]
  split
  · next wanted =>
      have success := (writable wanted).writeText store.statistics.artifact
      simp only [writeArtifact]
      generalize files.writeText store.options.paths.statistics
        store.statistics.artifact = reached at success
      obtain ⟨written, outcome⟩ := reached
      obtain rfl : outcome = .ok () := success
      rfl
  · rfl

/-- A store that is recording is finalized with success if its statistics can be
written. -/
theorem IsRecording.finalize_of_isWritable
    (recording : IsRecording options store files records)
    (writable : options.statistics = true →
      files.IsWritable options.paths.statistics) (ended : Moment) :
    (store.finalize files ended).result = .ok () := by
  obtain ⟨text, written, success, -, -, finalized⟩ :=
    recording.finalize_eq ended
  obtain ⟨rfl, -, -, -, -⟩ := recording
  rw [finalized]
  show ((store.ending ended).writeStatistics written).result = .ok ()
  refine writeStatistics_of_isWritable fun wanted => ?_
  have both := writeBoth_keeps FileTree.IsWritable.append (writable wanted)
    (store.ending ended) text (.footer ⟨ended.time⟩)
  rw [success] at both
  exact both

/-- A store that was finalized stays as it is, and answers as a store that was
never asked for anything. -/
theorem IsFinalized.perform {ended : Moment}
    (finalized : IsFinalized options store files records ended)
    (operation : StoreOperation) :
    ∃ notes, store.perform files operation =
      ⟨store, files, notes, operation.answer []⟩ := by
  have notCreated : store.phase ≠ .created := by
    rw [finalized.phase_eq]
    decide
  have notRecording : store.phase ≠ .recording := by
    rw [finalized.phase_eq]
    decide
  cases operation with
  | start => exact ⟨_, if_neg notCreated⟩
  | append record =>
      cases record with
      | header header => exact ⟨_, rfl⟩
      | footer footer => exact ⟨_, rfl⟩
      | core record => exact ⟨_, if_neg notRecording⟩
  | finalize again => exact ⟨_, if_neg notRecording⟩

end Store

namespace StoreRun

open MeetingLog.Store

variable {options : StoreOptions} {run first second : StoreRun}

/-! ## Two runs -/

/-- `run.IsUnderWay options` means that the store, made with the options, is
recording what the run has accepted, and that its statistics can be written. -/
structure IsUnderWay (options : StoreOptions) (run : StoreRun) : Prop where
  recording : IsRecording options run.store run.files run.accepted
  writable : options.statistics = true →
    run.files.IsWritable options.paths.statistics

/-- `run.IsOver options ended` means that the store, made with the options, was
finalized, and that all its files are complete. -/
structure IsOver (options : StoreOptions) (ended : Moment) (run : StoreRun) :
    Prop where
  finalized : IsFinalized options run.store run.files run.accepted ended
  statistics : options.statistics = true →
    run.files.readText options.paths.statistics =
      .ok (finalStatistics options run.accepted ended).artifact

theorem IsUnderWay.append (underWay : run.IsUnderWay options)
    (record : CoreRecord) :
    (run.store.perform run.files (.append (.core record))).result = .ok () ∧
      (run.next (.append (.core record))).IsUnderWay options ∧
      (run.next (.append (.core record))).accepted =
        run.accepted ++ [record] := by
  obtain ⟨recording, writable⟩ := underWay
  obtain ⟨success, recordingToo⟩ := recording.appendCore record
  have accepted : (run.next (.append (.core record))).accepted =
      run.accepted ++ [record] := by
    show run.accepted ++ StoreOperation.accepted (.append (.core record))
      (run.store.appendCore run.files record).result = _
    rw [success]
    rfl
  refine ⟨success, ⟨?_, fun wanted => ?_⟩, accepted⟩
  · rw [accepted]
    exact recordingToo
  · show (run.store.appendCore run.files record).files.IsWritable _
    rw [Store.appendCore, if_pos recording.phase_eq]
    exact writeBoth_keeps FileTree.IsWritable.append (writable wanted) _ _ _

theorem IsUnderWay.finalize (underWay : run.IsUnderWay options)
    (ended : Moment) :
    (run.store.perform run.files (.finalize ended)).result = .ok () ∧
      (run.next (.finalize ended)).IsOver options ended ∧
      (run.next (.finalize ended)).accepted = run.accepted := by
  obtain ⟨recording, writable⟩ := underWay
  have success := recording.finalize_of_isWritable writable ended
  have accepted : (run.next (.finalize ended)).accepted = run.accepted :=
    List.append_nil _
  refine ⟨success, ⟨?_, fun wanted => ?_⟩, accepted⟩
  · rw [accepted]
    exact recording.finalize ended
  · rw [accepted]
    exact FileTree.readText_of_readBytes
      (recording.finalize_statistics success wanted)

/-- `AreAlike options first second` means that the stores of two runs, made
with the options, have accepted the same, and that both are still recording or
were finalized at the same moment. -/
inductive AreAlike (options : StoreOptions) (first second : StoreRun) :
    Prop where
  | underWay (underWay : first.IsUnderWay options)
      (underWayToo : second.IsUnderWay options)
      (same : first.accepted = second.accepted)
  | finalized (ended : Moment) (isOver : first.IsOver options ended)
      (isOverToo : second.IsOver options ended)
      (same : first.accepted = second.accepted)

/-- Runs that are alike answer an operation alike and stay alike. -/
theorem AreAlike.next (alike : AreAlike options first second)
    (operation : StoreOperation) :
    (first.store.perform first.files operation).result =
        (second.store.perform second.files operation).result ∧
      AreAlike options (first.next operation) (second.next operation) := by
  cases alike with
  | underWay underWay underWayToo same =>
      have passes {notes notesToo : List Trace.Note}
          {result : Except StoreError Unit}
          (passed : first.store.perform first.files operation =
            ⟨first.store, first.files, notes, result⟩)
          (passedToo : second.store.perform second.files operation =
            ⟨second.store, second.files, notesToo, result⟩)
          (nothing : operation.accepted result = []) :
          (first.store.perform first.files operation).result =
              (second.store.perform second.files operation).result ∧
            AreAlike options (first.next operation)
              (second.next operation) := by
        rw [next_of_performed passed nothing,
          next_of_performed passedToo nothing, passed, passedToo]
        exact ⟨rfl, .underWay underWay underWayToo same⟩
      cases operation with
      | start =>
          have notCreated {run : StoreRun} (underWay : run.IsUnderWay options) :
              run.store.phase ≠ .created := by
            rw [underWay.recording.phase_eq]
            decide
          exact passes (start_of_phase_ne (notCreated underWay))
            (start_of_phase_ne (notCreated underWayToo)) rfl
      | append record =>
          cases record with
          | header header => exact passes rfl rfl rfl
          | footer footer => exact passes rfl rfl rfl
          | core record =>
              obtain ⟨result, later, accepted⟩ := underWay.append record
              obtain ⟨resultToo, laterToo, acceptedToo⟩ :=
                underWayToo.append record
              refine ⟨result.trans resultToo.symm,
                .underWay later laterToo ?_⟩
              rw [accepted, acceptedToo, same]
      | finalize ended =>
          obtain ⟨result, later, accepted⟩ := underWay.finalize ended
          obtain ⟨resultToo, laterToo, acceptedToo⟩ :=
            underWayToo.finalize ended
          refine ⟨result.trans resultToo.symm,
            .finalized ended later laterToo ?_⟩
          rw [accepted, acceptedToo, same]
  | finalized ended isOver isOverToo same =>
      obtain ⟨notes, passed⟩ := isOver.finalized.perform operation
      obtain ⟨notesToo, passedToo⟩ := isOverToo.finalized.perform operation
      have nothing : operation.accepted (operation.answer []) = [] := by
        cases operation with
        | start => rfl
        | append record => cases record <;> rfl
        | finalize again => rfl
      rw [next_of_performed passed nothing,
        next_of_performed passedToo nothing, passed, passedToo]
      exact ⟨rfl, .finalized ended isOver isOverToo same⟩

/-- Runs that are alike answer alike from then on if nobody else changes their
files. -/
theorem AreAlike.visitAll (alike : AreAlike options first second)
    (operations : List StoreOperation) :
    first.answers (operations.map .alone) =
        second.answers (operations.map .alone) ∧
      AreAlike options (first.visitAll (operations.map .alone))
        (second.visitAll (operations.map .alone)) := by
  induction operations generalizing first second with
  | nil => exact ⟨rfl, alike⟩
  | cons operation operations inductionHypothesis =>
      obtain ⟨answer, alikeToo⟩ := alike.next operation
      obtain ⟨answers, later⟩ := inductionHypothesis alikeToo
      exact ⟨congrArg₂ List.cons answer answers, later⟩

/-! ## What two runs show -/

/-- `first.ShowsSame options second` means that two runs cannot be told apart by
what they have accepted, by their statistics or by the files that were asked
for; the statistics file is written when a store is finalized. -/
structure ShowsSame (options : StoreOptions) (first second : StoreRun) :
    Prop where
  accepted : first.accepted = second.accepted
  statistics : first.store.statistics = second.store.statistics
  isOpen : first.store.isOpen = second.store.isOpen
  text : options.format.writesText = true →
    first.files.readText options.paths.text =
      second.files.readText options.paths.text
  records : options.format.writesRecords = true →
    first.files.readText options.paths.records =
      second.files.readText options.paths.records
  artifact : options.statistics = true → first.store.isOpen = false →
    first.files.readText options.paths.statistics =
      second.files.readText options.paths.statistics

theorem IsUnderWay.isOpen_eq (underWay : run.IsUnderWay options) :
    run.store.isOpen = true :=
  isOpen_iff.2 underWay.recording.phase_eq

theorem IsOver.isOpen_eq {ended : Moment} (isOver : run.IsOver options ended) :
    run.store.isOpen = false := by
  rw [isOpen, isOver.finalized.phase_eq]
  rfl

theorem AreAlike.showsSame (alike : AreAlike options first second) :
    first.ShowsSame options second := by
  cases alike with
  | underWay underWay underWayToo same =>
      have opened := underWay.isOpen_eq
      have openedToo := underWayToo.isOpen_eq
      obtain ⟨recording, -⟩ := underWay
      obtain ⟨recordingToo, -⟩ := underWayToo
      refine ⟨same, ?_, opened.trans openedToo.symm, fun wanted => ?_,
        fun wanted => ?_, fun _ closed => ?_⟩
      · rw [recording.counted, recordingToo.counted, same]
      · rw [recording.text.readText wanted, recordingToo.text.readText wanted,
          same]
      · rw [recording.lines.readText wanted,
          recordingToo.lines.readText wanted, same]
      · exact absurd (opened.symm.trans closed) nofun
  | finalized ended isOver isOverToo same =>
      have closed := isOver.isOpen_eq
      have closedToo := isOverToo.isOpen_eq
      obtain ⟨finalized, statistics⟩ := isOver
      obtain ⟨finalizedToo, statisticsToo⟩ := isOverToo
      refine ⟨same, ?_, closed.trans closedToo.symm, fun wanted => ?_,
        fun wanted => ?_, fun wanted _ => ?_⟩
      · rw [finalized.counted, finalizedToo.counted, same]
      · rw [finalized.text wanted, finalizedToo.text wanted, same]
      · rw [finalized.lines wanted, finalizedToo.lines wanted, same]
      · rw [statistics wanted, statisticsToo wanted, same]

/-! ## Starts that succeed -/

/-- A new store whose first start succeeds is recording. -/
theorem isRecording_of_answer {visit : StoreVisit} {files : FileTree}
    (starts : visit.operation = .start)
    (succeeds : (fresh options files).answer visit = .ok ()) :
    IsRecording options ((fresh options files).visit visit).store
      ((fresh options files).visit visit).files
      ((fresh options files).visit visit).accepted := by
  obtain ⟨disturb, operation⟩ := visit
  obtain rfl : operation = .start := starts
  exact start_isRecording succeeds

/-- Where there is room the first start of a new store succeeds, and its
statistics can be written. -/
theorem answer_of_hasRoom {files : FileTree} (room : options.HasRoom files) :
    (fresh options files).answer (.alone .start) = .ok () ∧
      ((fresh options files).visit (.alone .start)).files.IsWritable
        options.paths.statistics := by
  obtain ⟨result, -, free⟩ := start_of_hasRoom room
  exact ⟨result, free.isWritable⟩

/-- Where the start of an idle run succeeds, the run goes on as a new one that
is started there. -/
theorem IsIdle.start_eq {disturb : FileTree → FileTree}
    (idle : run.IsIdle options)
    (succeeds : run.answer ⟨disturb, .start⟩ = .ok ()) :
    (fresh options run.files).answer ⟨disturb, .start⟩ = .ok () ∧
      run.visit ⟨disturb, .start⟩ =
        (fresh options run.files).visit ⟨disturb, .start⟩ := by
  obtain ⟨result, same⟩ := idle.start (isIdle_fresh options run.files)
    (disturb run.files)
  exact ⟨result.symm.trans succeeds, same succeeds⟩

end StoreRun

/-- A store whose starts have failed takes nothing, and to finalize it does
nothing. Once a start succeeds its files hold what they begin with, once, and it
goes on as a new store does that is started there. It goes on alike even where a
new store finds other files, if the statistics can be written in both cases. -/
theorem failed_starts_leave_no_trace (options : StoreOptions)
    (files : FileTree) (visits : List StoreVisit)
    (fails : (StoreRun.fresh options files).startsFail visits = true)
    (disturb : FileTree → FileTree)
    (succeeds : ((StoreRun.fresh options files).visitAll visits).answer
      ⟨disturb, .start⟩ = .ok ()) :
    (∀ earlier, earlier <+: visits →
      let run := (StoreRun.fresh options files).visitAll earlier
      run.accepted = [] ∧ run.store.isOpen = false ∧
      run.store.statistics =
        Statistics.new options.room options.started.time ∧
      ∀ tree : FileTree,
        (∀ record, run.store.append tree (.core record) =
          ⟨run.store, tree, [], .error .notOpen⟩) ∧
        ∀ ended, (run.store.finalize tree ended).store = run.store ∧
          (run.store.finalize tree ended).files = tree ∧
          (run.store.finalize tree ended).result = .ok ()) ∧
    let run := (StoreRun.fresh options files).visitAll visits
    let started := run.visit ⟨disturb, .start⟩
    (started.store.isOpen = true ∧
      (options.format.writesText = true →
        started.files.readText options.paths.text =
          .ok options.openingText) ∧
      (options.format.writesRecords = true →
        started.files.readText options.paths.records =
          .ok ((Record.header options.header).line ++ "\n"))) ∧
    (∀ later,
      let new := (StoreRun.fresh options run.files).visit ⟨disturb, .start⟩
      started.answers later = new.answers later ∧
        started.visitAll later = new.visitAll later) ∧
    ∀ otherFiles,
      (StoreRun.fresh options otherFiles).answer (.alone .start) = .ok () →
      let other := (StoreRun.fresh options otherFiles).visit (.alone .start)
      (options.statistics = true →
        started.files.IsWritable options.paths.statistics ∧
          other.files.IsWritable options.paths.statistics) →
      ∀ operations : List StoreOperation,
        let later := operations.map StoreVisit.alone
        started.answers later = other.answers later ∧
          (started.visitAll later).ShowsSame options
            (other.visitAll later) := by
  have idle {earlier : List StoreVisit} (begins : earlier <+: visits) :
      ((StoreRun.fresh options files).visitAll earlier).IsIdle options :=
    (StoreRun.isIdle_fresh options files).visitAll fails begins
  refine ⟨fun earlier begins => ?_, ?_⟩
  · obtain ⟨unstarted, nothing⟩ := idle begins
    refine ⟨nothing, unstarted.isOpen_eq, unstarted.uncounted, fun tree =>
      ⟨fun record => unstarted.appendCore tree record, fun ended => ?_⟩⟩
    rw [unstarted.finalize tree ended]
    exact ⟨rfl, rfl, rfl⟩
  · intro run started
    obtain ⟨answer, asNew⟩ := (idle List.prefix_rfl).start_eq succeeds
    have nothing : started.accepted = [] := by
      show (run.visit ⟨disturb, .start⟩).accepted = []
      rw [asNew]
      rfl
    have recording : Store.IsRecording options started.store started.files
        started.accepted := by
      show Store.IsRecording options (run.visit ⟨disturb, .start⟩).store
        (run.visit ⟨disturb, .start⟩).files
        (run.visit ⟨disturb, .start⟩).accepted
      rw [asNew]
      exact StoreRun.isRecording_of_answer rfl answer
    refine ⟨⟨Store.isOpen_iff.2 recording.phase_eq, fun wanted => ?_,
      fun wanted => ?_⟩, fun later => ?_, ?_⟩
    · have shown := recording.text.readText wanted
      rwa [nothing, StoreOptions.textContent, coreText, List.map_nil,
        String.join_nil, String.append_empty] at shown
    · have shown := recording.lines.readText wanted
      rwa [nothing, StoreOptions.recordContent, List.map_nil,
        recordText_singleton] at shown
    · rw [← asNew]
      exact ⟨rfl, rfl⟩
    · intro otherFiles succeedsToo other writable operations
      have alike : StoreRun.AreAlike options started other :=
        .underWay ⟨recording, fun wanted => (writable wanted).1⟩
          ⟨StoreRun.isRecording_of_answer rfl succeedsToo,
            fun wanted => (writable wanted).2⟩ nothing
      obtain ⟨answers, later⟩ := alike.visitAll operations
      exact ⟨answers, later.showsSame⟩

/-- Starts that fail at different stages: there is a file in place of the
directory, and then a record file that takes no bytes. -/
def obstructed : List StoreVisit :=
  [⟨fun tree => tree.put (bytesOf "logs") (.file [] .epoch), .start⟩,
    .alone (.append (.core adaJoined)),
    ⟨fun tree => (tree.removeDirectory (bytesOf "logs")).install
      (bytesOf "logs/protocol_standup_19700101_000000.jsonl") .fullDevice, .start⟩,
    .alone (.finalize (Date.epoch.atTime .midnight))]

/-- Others take away what is in the way of the record file. -/
def unobstructed (tree : FileTree) : FileTree :=
  tree.removeDirectory (bytesOf "logs/protocol_standup_19700101_000000.jsonl")

/-- After starts that failed a store takes a record and is finalized like one
that was started in an empty tree. -/
theorem thorough_starts_after_obstructed :
    let files := FileTree.empty .epoch
    let run := (StoreRun.fresh thorough files).visitAll obstructed
    let started := run.visit ⟨unobstructed, .start⟩
    let other := (StoreRun.fresh thorough files).visit (.alone .start)
    let later := [StoreOperation.append (.core adaJoined),
      .finalize (Date.epoch.atTime .endOfDay)].map StoreVisit.alone
    (StoreRun.fresh thorough files).startsFail obstructed = true ∧
      run.accepted = [] ∧
      started.files.readText thorough.paths.text =
        .ok thorough.openingText ∧
      started.answers later = other.answers later ∧
      (started.visitAll later).ShowsSame thorough
        (other.visitAll later) := by
  intro files run started other later
  have fails : (StoreRun.fresh thorough files).startsFail obstructed =
      true := by
    decide +kernel
  have succeeds : run.answer ⟨unobstructed, .start⟩ = .ok () := by
    decide +kernel
  have writable : started.files.IsWritable thorough.paths.statistics := by
    decide +kernel
  obtain ⟨succeedsToo, writableToo⟩ :=
    StoreRun.answer_of_hasRoom hasRoom_thorough
  obtain ⟨before, ⟨-, text, -⟩, -, alike⟩ :=
    failed_starts_leave_no_trace thorough files obstructed fails unobstructed
      succeeds
  obtain ⟨answers, shown⟩ := alike files succeedsToo
    (fun _ => ⟨writable, writableToo⟩)
    [.append (.core adaJoined), .finalize (Date.epoch.atTime .endOfDay)]
  exact ⟨fails, (before obstructed List.prefix_rfl).1, text rfl, answers,
    shown⟩

end MeetingLog
