import MeetingLog.Proofs.Store.Views

/-!
# Stores among others

Others may change the files between any two operations of a store: they put
something in the way of a file, or take it away again. A start that fails leaves
files behind and may leave one of them open, but the next start does not depend
on that: it does what the start of a new store would do.
-/

namespace MeetingLog

open MeetingLog.Calendar
open MeetingLog.Files
open MeetingLog.Text
open MeetingLog.Trace

/-- An operation that a store is asked for, and what others have done to the
files since the one before. -/
structure StoreVisit where
  disturb : FileTree → FileTree
  operation : StoreOperation

/-- An operation before which nobody has changed the files. -/
def StoreVisit.alone (operation : StoreOperation) : StoreVisit :=
  ⟨id, operation⟩

namespace StoreRun

/-- A new store that has not been asked for anything. -/
def fresh (options : StoreOptions) (files : FileTree) : StoreRun :=
  ⟨Store.new options, files, []⟩

/-- What the store answers. -/
def answer (run : StoreRun) (visit : StoreVisit) : Except StoreError Unit :=
  (run.store.perform (visit.disturb run.files) visit.operation).result

def visit (run : StoreRun) (visit : StoreVisit) : StoreRun :=
  next { run with files := visit.disturb run.files } visit.operation

def visitAll (run : StoreRun) (visits : List StoreVisit) : StoreRun :=
  visits.foldl visit run

/-- What the store answers one after another. -/
def answers (run : StoreRun) : List StoreVisit → List (Except StoreError Unit)
  | [] => []
  | visit :: visits => run.answer visit :: (run.visit visit).answers visits

/-- `run.startsFail visits` means that every start among the visits fails. -/
def startsFail (run : StoreRun) : List StoreVisit → Bool
  | [] => true
  | visit :: visits =>
      (decide (visit.operation ≠ .start) || !(run.answer visit).isOk) &&
        (run.visit visit).startsFail visits

end StoreRun

/-! ## Attempts to start -/

namespace StoreStep

/-- `first.Matches related second` means that two steps have the same result
and do the same to the files, and that the stores they lead to are related if
they succeed. -/
structure Matches (related : Store → Store → Prop)
    (first second : StoreStep) : Prop where
  result : first.result = second.result
  files : first.files = second.files
  notes : first.notes = second.notes
  store : first.result = .ok () → related first.store second.store

theorem Matches.andThen {related relatedToo : Store → Store → Prop}
    {first second : StoreStep} {next : Store → FileTree → StoreStep}
    (begins : first.Matches related second)
    (goesOn : ∀ store other files, related store other →
      (next store files).Matches relatedToo (next other files)) :
    (first.andThen next).Matches relatedToo (second.andThen next) := by
  obtain ⟨result, files, notes, store⟩ := begins
  unfold StoreStep.andThen
  rw [← result]
  cases outcome : first.result with
  | error error =>
      refine ⟨result, files, notes, fun succeeded => ?_⟩
      rw [outcome] at succeeded
      cases succeeded
  | ok success =>
      have later := goesOn _ _ first.files (store outcome)
      rw [files] at later
      simp only [files]
      exact ⟨later.result, later.files, congrArg₂ _ notes later.notes,
        later.store⟩

/-- Steps that fail alike match. -/
theorem matches_of_error {related : Store → Store → Prop}
    (store other : Store) (files : FileTree) (notes : List Trace.Note)
    (error : StoreError) :
    Matches related ⟨store, files, notes, .error error⟩
      ⟨other, files, notes, .error error⟩ := by
  refine ⟨rfl, rfl, rfl, fun succeeded => ?_⟩
  cases succeeded

/-- What holds of the store when a step begins, and is kept by the next step,
holds in the end. -/
theorem store_andThen {motive : Store → Prop} {first : StoreStep}
    {next : Store → FileTree → StoreStep} (begins : motive first.store)
    (goesOn : ∀ store files, motive store →
      motive (next store files).store) :
    motive (first.andThen next).store := by
  unfold StoreStep.andThen
  split
  · exact begins
  · exact goesOn _ _ begins

end StoreStep

namespace Store

/-- `store.IsUnstarted options` means that the store, made with the options, has
not been started with success. Attempts may have left files open that it
writes. -/
structure IsUnstarted (options : StoreOptions) (store : Store) : Prop where
  options_eq : store.options = options
  phase_eq : store.phase = .created
  uncounted : store.statistics =
    Statistics.new options.room options.started.time
  text : options.format.writesText = false → store.text = none
  records : options.format.writesRecords = false → store.records = none

variable {options : StoreOptions} {store : Store} {files : FileTree}

theorem isOpen_iff : store.isOpen = true ↔ store.phase = .recording :=
  beq_iff_eq

theorem isUnstarted_new (options : StoreOptions) :
    (new options).IsUnstarted options :=
  ⟨rfl, rfl, rfl, fun _ => rfl, fun _ => rfl⟩

theorem IsUnstarted.prepare (unstarted : store.IsUnstarted options)
    (files : FileTree) : (store.prepare files).store.IsUnstarted options := by
  unfold Store.prepare
  split <;> exact unstarted

theorem IsUnstarted.openText (unstarted : store.IsUnstarted options)
    (files : FileTree) : (store.openText files).store.IsUnstarted options := by
  obtain ⟨rfl, phase_eq, uncounted, text, records⟩ := unstarted
  unfold Store.openText
  split
  · next wanted =>
      split
      · exact ⟨rfl, phase_eq, uncounted, text, records⟩
      · refine ⟨rfl, phase_eq, uncounted, fun unwanted => ?_, records⟩
        rw [wanted] at unwanted
        cases unwanted
  · exact ⟨rfl, phase_eq, uncounted, text, records⟩

theorem IsUnstarted.openRecords (unstarted : store.IsUnstarted options)
    (files : FileTree) :
    (store.openRecords files).store.IsUnstarted options := by
  obtain ⟨rfl, phase_eq, uncounted, text, records⟩ := unstarted
  unfold Store.openRecords
  split
  · next wanted =>
      split
      · exact ⟨rfl, phase_eq, uncounted, text, records⟩
      · refine ⟨rfl, phase_eq, uncounted, text, fun unwanted => ?_⟩
        rw [wanted] at unwanted
        cases unwanted
  · exact ⟨rfl, phase_eq, uncounted, text, records⟩

/-- An attempt to start that fails makes no difference to what counts. -/
theorem IsUnstarted.start (unstarted : store.IsUnstarted options)
    (failed : (store.start files).result ≠ .ok ()) :
    (store.start files).store.IsUnstarted options := by
  have opened : (((store.prepare files).andThen Store.openText).andThen
      Store.openRecords).store.IsUnstarted options :=
    StoreStep.store_andThen
      (StoreStep.store_andThen (unstarted.prepare files)
        fun _ files unstarted => unstarted.openText files)
      fun _ files unstarted => unstarted.openRecords files
  rw [Store.start, if_pos unstarted.phase_eq] at failed ⊢
  generalize ((store.prepare files).andThen Store.openText).andThen
    Store.openRecords = step at failed opened ⊢
  unfold StoreStep.andThen at failed ⊢
  split
  · exact opened
  · next succeeded =>
      rw [succeeded] at failed
      exact absurd rfl failed

/-! ## Attempts do not depend on earlier ones -/

/-- `AreBothUnstarted options store other` means that two stores with the same
options have not been started with success. -/
def AreBothUnstarted (options : StoreOptions) (store other : Store) : Prop :=
  store.IsUnstarted options ∧ other.IsUnstarted options

variable {other : Store}

theorem AreBothUnstarted.prepare (both : AreBothUnstarted options store other)
    (files : FileTree) :
    (store.prepare files).Matches (AreBothUnstarted options)
      (other.prepare files) := by
  have unstarted := both.1.prepare files
  have unstartedToo := both.2.prepare files
  revert unstarted unstartedToo
  rw [Store.prepare, Store.prepare, both.1.options_eq, both.2.options_eq]
  split <;> exact fun unstarted unstartedToo =>
    ⟨rfl, rfl, rfl, fun _ => ⟨unstarted, unstartedToo⟩⟩

theorem AreBothUnstarted.openText (both : AreBothUnstarted options store other)
    (files : FileTree) :
    (store.openText files).Matches
      (fun after otherAfter => AreBothUnstarted options after otherAfter ∧
        after.text = otherAfter.text)
      (other.openText files) := by
  have unstarted := both.1.openText files
  have unstartedToo := both.2.openText files
  revert unstarted unstartedToo
  rw [Store.openText, Store.openText, both.1.options_eq, both.2.options_eq]
  split
  · split
    · exact fun _ _ => StoreStep.matches_of_error ..
    · exact fun unstarted unstartedToo =>
        ⟨rfl, rfl, rfl, fun _ => ⟨⟨unstarted, unstartedToo⟩, rfl⟩⟩
  · next unwanted =>
      have noText := both.1.text (by simpa using unwanted)
      have noTextToo := both.2.text (by simpa using unwanted)
      exact fun unstarted unstartedToo => ⟨rfl, rfl, rfl, fun _ =>
        ⟨⟨unstarted, unstartedToo⟩, noText.trans noTextToo.symm⟩⟩

theorem AreBothUnstarted.eq (both : AreBothUnstarted options store other)
    (text : store.text = other.text)
    (records : store.records = other.records) : store = other := by
  show Store.mk store.options store.phase store.text store.records
    store.statistics = Store.mk other.options other.phase other.text
    other.records other.statistics
  rw [both.1.options_eq, both.1.phase_eq, both.1.uncounted, text, records,
    both.2.options_eq, both.2.phase_eq, both.2.uncounted]

theorem AreBothUnstarted.openRecords
    (both : AreBothUnstarted options store other)
    (sameText : store.text = other.text) (files : FileTree) :
    (store.openRecords files).Matches Eq (other.openRecords files) := by
  have after : AreBothUnstarted options (store.openRecords files).store
      (other.openRecords files).store :=
    ⟨both.1.openRecords files, both.2.openRecords files⟩
  revert after
  rw [Store.openRecords, Store.openRecords, both.1.options_eq,
    both.2.options_eq]
  split
  · split
    · exact fun _ => StoreStep.matches_of_error ..
    · exact fun after => ⟨rfl, rfl, rfl, fun _ => after.eq sameText rfl⟩
  · next unwanted =>
      have noRecords := both.1.records (by simpa using unwanted)
      have noRecordsToo := both.2.records (by simpa using unwanted)
      exact fun after => ⟨rfl, rfl, rfl, fun _ =>
        after.eq sameText (noRecords.trans noRecordsToo.symm)⟩

/-- Two stores that have not been started with success, whatever attempts were
made, do the same when they are started, and are the same if that succeeds. -/
theorem AreBothUnstarted.start (both : AreBothUnstarted options store other)
    (files : FileTree) :
    (store.start files).Matches Eq (other.start files) := by
  rw [Store.start, Store.start, if_pos both.1.phase_eq,
    if_pos both.2.phase_eq]
  have opened := (both.prepare files).andThen
    fun _ _ files both => both.openText files
  have recorded := opened.andThen
    fun _ _ files both => both.1.openRecords both.2 files
  refine recorded.andThen ?_
  rintro store _ files rfl
  exact ⟨rfl, rfl, rfl, fun _ => rfl⟩

/-! ## Refusals -/

theorem IsUnstarted.isOpen_eq (unstarted : store.IsUnstarted options) :
    store.isOpen = false := by
  rw [isOpen, unstarted.phase_eq]
  rfl

theorem IsUnstarted.appendCore (unstarted : store.IsUnstarted options)
    (files : FileTree) (record : CoreRecord) :
    store.appendCore files record = ⟨store, files, [], .error .notOpen⟩ := by
  rw [Store.appendCore, if_neg (by rw [unstarted.phase_eq]; decide)]

theorem IsUnstarted.finalize (unstarted : store.IsUnstarted options)
    (files : FileTree) (ended : Moment) :
    store.finalize files ended =
      ⟨store, files,
        [Note.debug "finalize on a store that is not open, ignoring"],
        .ok ()⟩ := by
  rw [Store.finalize, if_neg (by rw [unstarted.phase_eq]; decide)]

end Store

namespace StoreRun

open MeetingLog.Store

/-- `run.IsIdle options` means that the store, made with the options, has not
been started with success and has accepted nothing. -/
structure IsIdle (options : StoreOptions) (run : StoreRun) : Prop where
  unstarted : run.store.IsUnstarted options
  nothing : run.accepted = []

variable {options : StoreOptions} {run other : StoreRun}

theorem isIdle_fresh (options : StoreOptions) (files : FileTree) :
    (fresh options files).IsIdle options :=
  ⟨isUnstarted_new options, rfl⟩

/-- A run stays idle unless its store is started with success. -/
theorem IsIdle.visit {visit : StoreVisit} (idle : run.IsIdle options)
    (fails : visit.operation = .start → run.answer visit ≠ .ok ()) :
    (run.visit visit).IsIdle options := by
  obtain ⟨unstarted, nothing⟩ := idle
  obtain ⟨disturb, operation⟩ := visit
  cases operation with
  | start =>
      refine ⟨unstarted.start (fails rfl), ?_⟩
      exact (List.append_nil _).trans nothing
  | append record =>
      cases record with
      | header header => exact ⟨unstarted, (List.append_nil _).trans nothing⟩
      | footer footer => exact ⟨unstarted, (List.append_nil _).trans nothing⟩
      | core record =>
          have refused := unstarted.appendCore (disturb run.files) record
          constructor
          · show (run.store.appendCore _ record).store.IsUnstarted options
            rw [refused]
            exact unstarted
          · show run.accepted ++ StoreOperation.accepted _
              (run.store.appendCore (disturb run.files) record).result = []
            rw [refused, nothing]
            rfl
  | finalize ended =>
      have passed := unstarted.finalize (disturb run.files) ended
      refine ⟨?_, (List.append_nil _).trans nothing⟩
      show (run.store.finalize _ ended).store.IsUnstarted options
      rw [passed]
      exact unstarted

/-- As long as all starts fail a run is idle. -/
theorem IsIdle.visitAll {visits earlier : List StoreVisit}
    (idle : run.IsIdle options) (fails : run.startsFail visits = true)
    (begins : earlier <+: visits) :
    (run.visitAll earlier).IsIdle options := by
  induction earlier generalizing run visits with
  | nil => exact idle
  | cons visit earlier inductionHypothesis =>
      obtain ⟨later, rfl⟩ := begins
      rw [List.cons_append, startsFail, Bool.and_eq_true, Bool.or_eq_true]
        at fails
      obtain ⟨first, others⟩ := fails
      refine inductionHypothesis (idle.visit fun starts succeeds => ?_) others
        (List.prefix_append earlier later)
      rcases first with (notStart | failed)
      · exact of_decide_eq_true notStart starts
      · rw [succeeds] at failed
        cases failed

/-- Where the start of one idle run succeeds that of another one does, and the
two are the same from then on. -/
theorem IsIdle.start (idle : run.IsIdle options)
    (idleToo : other.IsIdle options) (files : FileTree) :
    (run.store.start files).result = (other.store.start files).result ∧
      ((run.store.start files).result = .ok () →
        next { run with files := files } .start =
          next { other with files := files } .start) := by
  have matched := AreBothUnstarted.start ⟨idle.unstarted, idleToo.unstarted⟩
    files
  refine ⟨matched.result, fun succeeds => ?_⟩
  show StoreRun.mk (run.store.start files).store
      (run.store.start files).files
      (run.accepted ++ []) =
    StoreRun.mk (other.store.start files).store
      (other.store.start files).files
      (other.accepted ++ [])
  rw [matched.store succeeds, matched.files, idle.nothing, idleToo.nothing]

end StoreRun

end MeetingLog
