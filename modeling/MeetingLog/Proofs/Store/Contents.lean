import MeetingLog.Proofs.Files.Place
import MeetingLog.Proofs.Record.Recording
import MeetingLog.Proofs.Store.Taking

/-!
# What the files of a store hold

While a store is recording its text file holds the opening block and the text
forms of the records it has taken, and its record file the header and the lines
of these records. Finalizing adds the closing block and the footer. The
statistics are those of the records.
-/

namespace MeetingLog

open MeetingLog.Calendar
open MeetingLog.Files
open MeetingLog.Text

/-- The text forms of some records. -/
def coreText (records : List CoreRecord) : String :=
  String.join (records.map CoreRecord.textForm)

theorem coreText_append (front back : List CoreRecord) :
    coreText (front ++ back) = coreText front ++ coreText back := by
  rw [coreText, List.map_append, String.join_append]
  rfl

@[simp]
theorem coreText_singleton (record : CoreRecord) :
    coreText [record] = record.textForm := by
  rw [coreText, List.map_singleton, String.join_cons, String.join_nil,
    String.append_empty]

namespace StoreOptions

/-- What all paths of the files begin with. -/
def basePath (options : StoreOptions) : Path :=
  join options.directory (bytesOf (baseName options.room options.started))

theorem baseName_shape (options : StoreOptions) :
    ∃ rest, bytesOf (baseName options.room options.started) =
      0x70 :: rest := by
  simp only [baseName, bytesOf_append]
  exact ⟨_, rfl⟩

theorem paths_eq (options : StoreOptions) :
    options.paths =
      ⟨options.basePath ++ bytesOf ".txt",
        options.basePath ++ bytesOf ".jsonl",
        options.basePath ++ bytesOf "_stats.json"⟩ := by
  obtain ⟨rest, shape⟩ := options.baseName_shape
  simp only [paths, LogPaths.ofBase, basePath, bytesOf_append,
    join_append shape (by decide)]

/-- What the text file holds once some records have been taken. -/
def textContent (options : StoreOptions) (records : List CoreRecord) :
    String :=
  options.openingText ++ coreText records

/-- What the record file holds once some records have been taken. -/
def recordContent (options : StoreOptions) (records : List CoreRecord) :
    String :=
  recordText (.header options.header :: records.map Record.core)

theorem textContent_append (options : StoreOptions)
    (records : List CoreRecord) (record : CoreRecord) :
    options.textContent (records ++ [record]) =
      options.textContent records ++ record.textForm := by
  rw [textContent, textContent, coreText_append, ← String.append_assoc,
    coreText_singleton]

theorem recordContent_append (options : StoreOptions)
    (records : List CoreRecord) (record : CoreRecord) :
    options.recordContent (records ++ [record]) =
      options.recordContent records ++ ((Record.core record).line ++ "\n") := by
  rw [recordContent, recordContent, List.map_append, ← List.cons_append,
    recordText_append, List.map_singleton, recordText_singleton]

def statisticsOf (options : StoreOptions) (records : List CoreRecord) :
    Statistics :=
  (Statistics.new options.room options.started.time).addAll records

end StoreOptions

theorem endedAt_addAll (records : List CoreRecord) :
    ∀ statistics : Statistics,
      (statistics.addAll records).endedAt = statistics.endedAt := by
  induction records with
  | nil => intro statistics; rfl
  | cons record others inductionHypothesis =>
      intro statistics
      refine (inductionHypothesis (statistics.add record)).trans ?_
      cases record with
      | transcript entry => rfl
      | lifecycle entry =>
          obtain ⟨time, participant, kind⟩ := entry
          cases kind <;> rfl

/-- As long as records are taken the statistics do not know an end. -/
theorem endedAt_statisticsOf (options : StoreOptions)
    (records : List CoreRecord) :
    (options.statisticsOf records).endedAt = none :=
  endedAt_addAll records _

/-- `Shows files wanted path content file` means that `file` is open, holds the
content and is found at the path if it is wanted at all. -/
def Shows (files : FileTree) (wanted : Bool) (path : Path)
    (content : String) : Option OpenFile → Prop
  | none => wanted = false
  | some file =>
      wanted = true ∧ files.resolve path = .ok file.place ∧
        files.HasFile file.place (bytesOf content)

namespace Shows

variable {files after : FileTree} {wanted : Bool} {path : Path}
variable {content : String}

/-- A file that is shown is not affected by what is written to another one. -/
theorem keep {file : Option OpenFile} {other : Path}
    (shows : Shows files wanted path content file)
    (writes : FileTree.WritesTo files after other)
    (apart : FileTree.AreApart path other) :
    Shows after wanted path content file := by
  cases file with
  | none => exact shows
  | some file =>
      obtain ⟨isWanted, resolved, held⟩ := shows
      refine ⟨isWanted, writes.kept.resolve resolved, ?_⟩
      rcases writes with rfl | ⟨place, resolvedToo, change⟩
      · exact held
      · exact held.keep change (apart files _ _ resolved resolvedToo)

/-- A text that is written to a file that is shown stands behind its
content. -/
theorem write {file : OpenFile}
    (shows : Shows files wanted path content (some file)) (text : String) :
    ∃ written, file.write files text = .ok written ∧
      Shows written wanted path (content ++ text) (some file) ∧
      FileTree.WritesTo files written path := by
  obtain ⟨isWanted, resolved, held⟩ := shows
  obtain ⟨written, appended, heldAfter, change⟩ :=
    FileTree.append_file held (bytesOf text)
  refine ⟨written, ?_, ⟨isWanted, change.kept.resolve resolved, ?_⟩,
    .inr ⟨file.place, resolved, change⟩⟩
  · rw [OpenFile.write, appended]
  · rw [bytesOf_append]
    exact heldAfter

/-- A file that is shown holds the bytes of its content. -/
theorem readBytes {file : Option OpenFile}
    (shows : Shows files wanted path content file)
    (isWanted : wanted = true) :
    files.readBytes path = .ok (bytesOf content) := by
  cases file with
  | none => cases isWanted.symm.trans shows
  | some file => exact FileTree.readBytes_eq shows.2.1 shows.2.2

/-- A file that is shown is read back. -/
theorem readText {file : Option OpenFile}
    (shows : Shows files wanted path content file)
    (isWanted : wanted = true) : files.readText path = .ok content :=
  FileTree.readText_of_readBytes (shows.readBytes isWanted)

end Shows

namespace StoreOptions

theorem text_apart_records (options : StoreOptions) :
    FileTree.AreApart options.paths.text options.paths.records := by
  rw [paths_eq]
  exact FileTree.append_areApart _ (by decide) (by decide) (by decide)
    (by decide) (by decide)

theorem text_apart_statistics (options : StoreOptions) :
    FileTree.AreApart options.paths.text options.paths.statistics := by
  rw [paths_eq]
  exact FileTree.append_areApart _ (by decide) (by decide) (by decide)
    (by decide) (by decide)

theorem records_apart_statistics (options : StoreOptions) :
    FileTree.AreApart options.paths.records options.paths.statistics := by
  rw [paths_eq]
  exact FileTree.append_areApart _ (by decide) (by decide) (by decide)
    (by decide) (by decide)

end StoreOptions

namespace Store

/-- `IsRecording options store files records` means that the store, made with
the options, is recording and has taken the records: its files show them and
its statistics count them. -/
structure IsRecording (options : StoreOptions) (store : Store)
    (files : FileTree) (records : List CoreRecord) : Prop where
  options_eq : store.options = options
  phase_eq : store.phase = .recording
  counted : store.statistics = options.statisticsOf records
  text : Shows files options.format.writesText options.paths.text
    (options.textContent records) store.text
  lines : Shows files options.format.writesRecords options.paths.records
    (options.recordContent records) store.records

variable {options : StoreOptions} {store : Store} {files : FileTree}
variable {records : List CoreRecord}

theorem writeText_of_shows {wanted : Bool} {path : Path} {content : String}
    (shows : Shows files wanted path content store.text) (text : String) :
    ∃ written, store.writeText text files = ⟨store, written, [], .ok ()⟩ ∧
      Shows written wanted path (content ++ text) store.text ∧
      FileTree.WritesTo files written path := by
  unfold writeText
  cases openFile : store.text with
  | none =>
      rw [openFile] at shows
      exact ⟨files, rfl, shows, .inl rfl⟩
  | some file =>
      rw [openFile] at shows
      obtain ⟨written, success, shown, writes⟩ := shows.write text
      simp only [success]
      exact ⟨written, rfl, shown, writes⟩

theorem writeRecord_of_shows {wanted : Bool} {path : Path} {content : String}
    (shows : Shows files wanted path content store.records)
    (record : Record) :
    ∃ written,
      store.writeRecord record files = ⟨store, written, [], .ok ()⟩ ∧
      Shows written wanted path (content ++ (record.line ++ "\n"))
        store.records ∧
      FileTree.WritesTo files written path := by
  unfold writeRecord
  cases openFile : store.records with
  | none =>
      rw [openFile] at shows
      exact ⟨files, rfl, shows, .inl rfl⟩
  | some file =>
      rw [openFile] at shows
      obtain ⟨written, success, shown, writes⟩ :=
        shows.write (record.line ++ "\n")
      simp only [success]
      exact ⟨written, rfl, shown, writes⟩

/-- Something written to the text file and then to the record file. -/
theorem writeBoth_of_shows {wanted wantedToo : Bool}
    {content lines : String}
    (shows : Shows files wanted options.paths.text content store.text)
    (showsToo :
      Shows files wantedToo options.paths.records lines store.records)
    (text : String) (record : Record) :
    ∃ written,
      (store.writeText text files).andThen (writeRecord record) =
        ⟨store, written, [], .ok ()⟩ ∧
      Shows written wanted options.paths.text (content ++ text)
        store.text ∧
      Shows written wantedToo options.paths.records
        (lines ++ (record.line ++ "\n")) store.records := by
  obtain ⟨between, first, shown, writes⟩ := writeText_of_shows shows text
  obtain ⟨written, second, shownToo, writesToo⟩ :=
    writeRecord_of_shows
      (showsToo.keep writes options.text_apart_records.symm) record
  refine ⟨written, ?_, shown.keep writesToo options.text_apart_records,
    shownToo⟩
  rw [first]
  simp only [StoreStep.andThen, second, List.append_nil]

/-- A store that is recording takes every record. -/
theorem IsRecording.appendCore
    (recording : IsRecording options store files records)
    (record : CoreRecord) :
    (store.appendCore files record).result = .ok () ∧
      IsRecording options (store.appendCore files record).store
        (store.appendCore files record).files (records ++ [record]) := by
  obtain ⟨options_eq, phase_eq, counted, text, lines⟩ := recording
  let counting : Store :=
    { store with statistics := store.statistics.add record }
  have before : Shows files options.format.writesText options.paths.text
      (options.textContent records) counting.text :=
    text
  have beforeToo : Shows files options.format.writesRecords
      options.paths.records (options.recordContent records)
      counting.records :=
    lines
  obtain ⟨written, success, shown, shownToo⟩ :=
    writeBoth_of_shows before beforeToo record.textForm (.core record)
  have step :
      store.appendCore files record =
        ⟨counting, written, [], .ok ()⟩ := by
    rw [Store.appendCore, if_pos phase_eq]
    exact success
  rw [step]
  refine ⟨rfl, options_eq, phase_eq, ?_, ?_, ?_⟩
  · show store.statistics.add record = _
    rw [counted, StoreOptions.statisticsOf, StoreOptions.statisticsOf,
      Statistics.addAll, Statistics.addAll, List.foldl_append]
    rfl
  · rw [StoreOptions.textContent_append]
    exact shown
  · rw [StoreOptions.recordContent_append]
    exact shownToo

theorem IsRecording.takes {after : Store} {written : FileTree}
    {more : List CoreRecord}
    (recording : IsRecording options store files records)
    (taken : Takes store files more after written) :
    IsRecording options after written (records ++ more) := by
  induction taken generalizing records with
  | nothing => simpa using recording
  | record _ _ inductionHypothesis =>
      have later := inductionHypothesis (recording.appendCore _).2
      rwa [List.append_assoc] at later

/-! ## Starting -/

theorem append_ne_empty (front : String) {back : String}
    (notEmpty : back ≠ "") : front ++ back ≠ "" := by
  intro empty
  exact notEmpty (String.append_eq_empty_iff.1 empty).2

theorem bytesOf_ne_nil {text : String} (notEmpty : text ≠ "") :
    bytesOf text ≠ [] := by
  intro none
  have decoded := decode?_bytesOf text
  rw [none] at decoded
  have letters : text.toList = [] := (Option.some.inj decoded).symm
  exact notEmpty (String.toList_eq_nil_iff.1 letters)

theorem start_ok {after : FileTree} {path : Path} {text : String}
    {file : OpenFile}
    (notEmpty : text ≠ "")
    (started : OpenFile.start files path text = (after, .ok file)) :
    Shows after true path text (some file) ∧
      FileTree.WritesTo files after path := by
  unfold OpenFile.start at started
  split at started
  · simp at started
  · next created place creation =>
      simp only [OpenFile.write] at started
      cases writing : created.append place (bytesOf text) with
      | error error => simp [writing] at started
      | ok written =>
          simp only [writing] at started
          obtain ⟨rfl, equality⟩ := Prod.mk.inj started
          obtain rfl := Except.ok.inj equality
          obtain ⟨resolved, held, change⟩ :=
            FileTree.createFile_append_ok (bytesOf_ne_nil notEmpty) creation
              writing
          exact
            ⟨⟨rfl, change.kept.resolve resolved, held⟩,
              .inr ⟨place, resolved, change⟩⟩

/-- A step followed by another one succeeds only if both do, and leads to what
the second leads to. -/
theorem andThen_ok {first : StoreStep}
    {second : Store → FileTree → StoreStep}
    (result : (first.andThen second).result = .ok ()) :
    first.result = .ok () ∧
      (second first.store first.files).result = .ok () ∧
      (first.andThen second).store = (second first.store first.files).store ∧
      (first.andThen second).files = (second first.store first.files).files := by
  unfold StoreStep.andThen at result ⊢
  split at result
  · next failed => simp [failed] at result
  · next succeeded => exact ⟨succeeded, result, rfl, rfl⟩

theorem openText_ok
    (result : (store.openText files).result = .ok ()) :
    ∃ file, (store.openText files).store = { store with text := file } ∧
      (store.text = none → Shows (store.openText files).files
        store.options.format.writesText store.options.paths.text
        store.options.openingText file) := by
  unfold openText at result ⊢
  split
  · next wanted =>
      rw [if_pos wanted] at result
      have notEmpty : store.options.openingText ≠ "" :=
        append_ne_empty _ (by decide)
      cases started :
          OpenFile.start files store.options.paths.text
            store.options.openingText with
      | mk created outcome =>
          cases outcome with
          | error error => simp [started] at result
          | ok file =>
              refine ⟨some file, rfl, fun _ => ?_⟩
              rw [wanted]
              exact (start_ok notEmpty started).1
  · next unwanted =>
      have unwantedToo : store.options.format.writesText = false := by
        simpa using unwanted
      refine ⟨store.text, rfl, fun none => ?_⟩
      rw [none]
      exact unwantedToo

theorem openRecords_ok
    (result : (store.openRecords files).result = .ok ()) :
    ∃ file,
      (store.openRecords files).store = { store with records := file } ∧
      (store.records = none → Shows (store.openRecords files).files
        store.options.format.writesRecords store.options.paths.records
        ((Record.header store.options.header).line ++ "\n") file) ∧
      FileTree.WritesTo files (store.openRecords files).files
        store.options.paths.records := by
  unfold openRecords at result ⊢
  split
  · next wanted =>
      rw [if_pos wanted] at result
      have notEmpty :
          (Record.header store.options.header).line ++ "\n" ≠ "" :=
        append_ne_empty _ (by decide)
      cases started :
          OpenFile.start files store.options.paths.records
            ((Record.header store.options.header).line ++ "\n") with
      | mk created outcome =>
          cases outcome with
          | error error => simp [started] at result
          | ok file =>
              obtain ⟨shows, writes⟩ := start_ok notEmpty started
              refine ⟨some file, rfl, fun _ => ?_, writes⟩
              rw [wanted]
              exact shows
  · next unwanted =>
      have unwantedToo : store.options.format.writesRecords = false := by
        simpa using unwanted
      refine ⟨store.records, rfl, fun none => ?_, .inl rfl⟩
      rw [none]
      exact unwantedToo

/-- A store that was started with success is recording and has taken nothing
yet. -/
theorem start_isRecording
    (result : ((Store.new options).start files).result = .ok ()) :
    IsRecording options ((Store.new options).start files).store
      ((Store.new options).start files).files [] := by
  have created : (Store.new options).phase = .created := rfl
  rw [start, if_pos created] at result ⊢
  obtain ⟨opened, _, store_eq, files_eq⟩ := andThen_ok result
  rw [store_eq, files_eq]
  obtain ⟨textOpened, recordsOpened, recordsStore, recordsFiles⟩ :=
    andThen_ok opened
  rw [recordsStore, recordsFiles]
  obtain ⟨prepared, textResult, textStore, textFiles⟩ :=
    andThen_ok textOpened
  rw [textStore, textFiles] at recordsOpened ⊢
  have unchanged :
      ((Store.new options).prepare files).store = Store.new options := by
    unfold prepare
    split <;> rfl
  rw [unchanged] at textResult recordsOpened ⊢
  obtain ⟨textFile, textStore_eq, textShown⟩ := openText_ok textResult
  rw [textStore_eq] at recordsOpened ⊢
  obtain ⟨recordFile, recordStore_eq, recordShown, writes⟩ :=
    openRecords_ok recordsOpened
  rw [recordStore_eq]
  refine ⟨rfl, rfl, rfl, ?_, ?_⟩
  · have content : options.textContent [] = options.openingText := by
      rw [StoreOptions.textContent, coreText, List.map_nil, String.join_nil,
        String.append_empty]
    rw [content]
    exact (textShown rfl).keep writes options.text_apart_records
  · have content :
        options.recordContent [] =
          (Record.header options.header).line ++ "\n" := by
      rw [StoreOptions.recordContent, List.map_nil, recordText_singleton]
    rw [content]
    exact recordShown rfl

/-! ## Finalizing -/

/-- What is shown of the statistics in the closing block. -/
def shownStatistics (options : StoreOptions) (statistics : Statistics) :
    Option Statistics :=
  if options.statistics then some statistics else none

def finalStatistics (options : StoreOptions) (records : List CoreRecord)
    (ended : Moment) : Statistics :=
  { options.statisticsOf records with endedAt := some ended.time }

/-- `IsFinalized options store files records ended` means that the store, made
with the options, has taken the records and was finalized at a moment: its
files, which it has forgotten, are complete. -/
structure IsFinalized (options : StoreOptions) (store : Store)
    (files : FileTree) (records : List CoreRecord) (ended : Moment) :
    Prop where
  options_eq : store.options = options
  phase_eq : store.phase = .finalized
  counted : store.statistics = finalStatistics options records ended
  text : options.format.writesText = true →
    files.readText options.paths.text =
      .ok (options.textContent records ++
        closingBlock ended
          (shownStatistics options (finalStatistics options records ended)))
  lines : options.format.writesRecords = true →
    files.readText options.paths.records =
      .ok (options.recordContent records ++
        recordText [.footer ⟨ended.time⟩])

theorem writeArtifact_writesTo (files : FileTree) (path : Path)
    (statistics : Statistics) :
    FileTree.WritesTo files
      (writeArtifact FileTree.writeText files path statistics).1 path := by
  have writes := FileTree.writeText_writesTo files path statistics.artifact
  unfold writeArtifact
  generalize files.writeText path statistics.artifact = reached at writes
  obtain ⟨after, error | success⟩ := reached
  · exact writes
  · exact writes

theorem writeStatistics_writesTo (store : Store) (files : FileTree) :
    FileTree.WritesTo files (store.writeStatistics files).files
      store.options.paths.statistics ∧
    (store.writeStatistics files).store = store := by
  unfold writeStatistics
  split
  · have writes :=
      writeArtifact_writesTo files store.options.paths.statistics
        store.statistics
    simp only
    generalize writeArtifact FileTree.writeText files
      store.options.paths.statistics store.statistics = reached at writes
    obtain ⟨after, error | success⟩ := reached
    · exact ⟨writes, rfl⟩
    · exact ⟨writes, rfl⟩
  · exact ⟨.inl rfl, rfl⟩

/-- The store as finalizing leaves it, before its files are closed. -/
def ending (store : Store) (ended : Moment) : Store :=
  { store with
    phase := .finalized
    statistics := { store.statistics with endedAt := some ended.time } }

/-- A store that is recording and is finalized completes its text file and its
record file; what is left to do is to write the statistics. -/
theorem IsRecording.finalize_eq
    (recording : IsRecording options store files records) (ended : Moment) :
    ∃ text written,
      ((store.ending ended).writeText text files).andThen
          (writeRecord (.footer ⟨ended.time⟩)) =
        ⟨store.ending ended, written, [], .ok ()⟩ ∧
      Shows written options.format.writesText options.paths.text
        (options.textContent records ++
          closingBlock ended
            (shownStatistics options (finalStatistics options records ended)))
        store.text ∧
      Shows written options.format.writesRecords options.paths.records
        (options.recordContent records ++ recordText [.footer ⟨ended.time⟩])
        store.records ∧
      store.finalize files ended =
        { (store.ending ended).writeStatistics written with
          store := (store.ending ended).closeFiles } := by
  obtain ⟨rfl, phase_eq, counted, text, lines⟩ := recording
  have before : Shows files store.options.format.writesText
      store.options.paths.text (store.options.textContent records)
      (store.ending ended).text :=
    text
  have beforeToo : Shows files store.options.format.writesRecords
      store.options.paths.records (store.options.recordContent records)
      (store.ending ended).records :=
    lines
  obtain ⟨written, success, shown, shownToo⟩ :=
    writeBoth_of_shows before beforeToo
      (closingBlock ended
        (shownStatistics store.options (store.ending ended).statistics))
      (.footer ⟨ended.time⟩)
  have statistics_eq :
      (store.ending ended).statistics =
        finalStatistics store.options records ended := by
    show ({ store.statistics with endedAt := _ } : Statistics) = _
    rw [counted]
    rfl
  refine ⟨_, written, success, ?_, ?_, ?_⟩
  · rw [← statistics_eq]
    exact shown
  · rw [recordText_singleton]
    exact shownToo
  · have unchanged :=
      (writeStatistics_writesTo (store.ending ended) written).2
    have steps : store.finalize files ended =
        let step := (((store.ending ended).writeText
          (closingBlock ended
            (shownStatistics store.options (store.ending ended).statistics))
          files).andThen (writeRecord (.footer ⟨ended.time⟩))).andThen
            writeStatistics
        { step with store := step.store.closeFiles } := by
      rw [Store.finalize, if_pos phase_eq]
      rfl
    rw [steps, success]
    simp only [StoreStep.andThen, unchanged, List.nil_append]

/-- After a store that is recording was finalized its files are still shown,
even if the statistics could not be written. -/
theorem IsRecording.finalize_shows
    (recording : IsRecording options store files records) (ended : Moment) :
    Shows (store.finalize files ended).files options.format.writesText
      options.paths.text
      (options.textContent records ++
        closingBlock ended
          (shownStatistics options (finalStatistics options records ended)))
      store.text ∧
    Shows (store.finalize files ended).files options.format.writesRecords
      options.paths.records
      (options.recordContent records ++ recordText [.footer ⟨ended.time⟩])
      store.records := by
  obtain ⟨_, written, -, shown, shownToo, finalized⟩ :=
    recording.finalize_eq ended
  obtain ⟨rfl, -, -, -, -⟩ := recording
  obtain ⟨writes, -⟩ :=
    writeStatistics_writesTo (store.ending ended) written
  rw [finalized]
  exact ⟨shown.keep writes store.options.text_apart_statistics,
    shownToo.keep writes store.options.records_apart_statistics⟩

/-- A store that is recording and is finalized completes its text file and its
record file, even if the statistics cannot be written. -/
theorem IsRecording.finalize
    (recording : IsRecording options store files records) (ended : Moment) :
    IsFinalized options (store.finalize files ended).store
      (store.finalize files ended).files records ended := by
  obtain ⟨shown, shownToo⟩ := recording.finalize_shows ended
  obtain ⟨_, _, -, -, -, finalized⟩ := recording.finalize_eq ended
  obtain ⟨rfl, -, counted, -, -⟩ := recording
  have closed : (store.finalize files ended).store =
      (store.ending ended).closeFiles := by
    rw [finalized]
  rw [closed]
  refine ⟨rfl, rfl, ?_, shown.readText, shownToo.readText⟩
  show ({ store.statistics with endedAt := _ } : Statistics) = _
  rw [counted]
  rfl

/-- Statistics that were written with success are found in their file. -/
theorem writeStatistics_ok (wanted : store.options.statistics = true)
    (success : (store.writeStatistics files).result = .ok ()) :
    (store.writeStatistics files).files.readBytes
      store.options.paths.statistics =
        .ok (bytesOf store.statistics.artifact) := by
  unfold writeStatistics writeArtifact at success ⊢
  rw [if_pos wanted] at success ⊢
  cases outcome : files.writeText store.options.paths.statistics
      store.statistics.artifact with
  | mk after result =>
      simp only [outcome] at success ⊢
      cases result with
      | error error => cases success
      | ok _ => exact FileTree.readBytes_writeText outcome

/-- Unless finalizing fails the statistics file holds the final statistics, if
it is wanted. -/
theorem IsRecording.finalize_statistics
    (recording : IsRecording options store files records) {ended : Moment}
    (success : (store.finalize files ended).result = .ok ())
    (wanted : options.statistics = true) :
    (store.finalize files ended).files.readBytes options.paths.statistics =
      .ok (bytesOf (finalStatistics options records ended).artifact) := by
  obtain ⟨_, written, -, -, -, finalized⟩ := recording.finalize_eq ended
  obtain ⟨rfl, -, counted, -, -⟩ := recording
  have statistics_eq : (store.ending ended).statistics =
      finalStatistics store.options records ended := by
    show ({ store.statistics with endedAt := _ } : Statistics) = _
    rw [counted]
    rfl
  rw [finalized] at success ⊢
  rw [← statistics_eq]
  exact writeStatistics_ok wanted success

theorem IsFinalized.takes_nothing {ended : Moment} {after : Store}
    {written : FileTree} {more : List CoreRecord}
    (finalized : IsFinalized options store files records ended)
    (taken : Takes store files more after written) :
    more = [] ∧ after = store ∧ written = files := by
  cases taken with
  | nothing => exact ⟨rfl, rfl, rfl⟩
  | record success _ =>
      rw [appendCore, finalized.phase_eq] at success
      simp at success

/-- A store that was finalized stays as it is. -/
theorem IsFinalized.finalize {earlier : Moment}
    (finalized : IsFinalized options store files records earlier)
    (ended : Moment) :
    IsFinalized options (store.finalize files ended).store
      (store.finalize files ended).files records earlier := by
  rw [Store.finalize, if_neg (by rw [finalized.phase_eq]; decide)]
  exact finalized

/-- `Holds options store files records` means that the store, made with the
options, has taken the records, and is recording or was finalized. -/
def Holds (options : StoreOptions) (store : Store) (files : FileTree)
    (records : List CoreRecord) : Prop :=
  IsRecording options store files records ∨
    ∃ ended, IsFinalized options store files records ended

/-- Whatever a store takes it holds from then on. -/
theorem Holds.takes {after : Store} {written : FileTree}
    {more : List CoreRecord} (holds : Holds options store files records)
    (taken : Takes store files more after written) :
    Holds options after written (records ++ more) := by
  rcases holds with recording | ⟨ended, finalized⟩
  · exact .inl (recording.takes taken)
  · obtain ⟨rfl, rfl, rfl⟩ := finalized.takes_nothing taken
    rw [List.append_nil]
    exact .inr ⟨ended, finalized⟩

theorem Holds.finalize (holds : Holds options store files records)
    (ended : Moment) :
    Holds options (store.finalize files ended).store
      (store.finalize files ended).files records := by
  right
  rcases holds with recording | ⟨earlier, finalized⟩
  · exact ⟨ended, recording.finalize ended⟩
  · exact ⟨earlier, finalized.finalize ended⟩

end Store

end MeetingLog
