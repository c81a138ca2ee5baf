import MeetingLog.Proofs.Files.Links
import MeetingLog.Proofs.Files.Written
import MeetingLog.Proofs.Repair.Idempotence
import MeetingLog.Repair.Run

/-!
# What a repair run leaves alone

A repair run computes everything before it writes, and the names of the files
that it writes are longer than the name of the file that it reads. So the file
that is read stays as it is, whatever directories the paths lead through, and
all that changes are the directory of the output and the files named for it.
This holds as long as none of the files named for it has another name already.
-/

namespace MeetingLog

open MeetingLog.Calendar
open MeetingLog.Files
open MeetingLog.Files.FileTree
open MeetingLog.Text
open MeetingLog.Trace

variable {options : RepairOptions} {files : FileTree} {repaired : Repaired}

namespace RepairOptions

/-- `options.Repairs files repaired` means that the record file is readable and
dated and that it and the trace, as they are in the tree, are repaired to
that. -/
def Repairs (options : RepairOptions) (files : FileTree)
    (repaired : Repaired) : Prop :=
  ∃ content date notes, files.readText options.input = .ok content ∧
    options.findDate files = .ok (date, notes) ∧
    repaired = (Recording.read content).repair options.logger
      (options.findTrace files).1
      (Window.ofRecording (Recording.read content) date options.start
        options.finish)
      (options.findRoom (Recording.read content))

/-- What is written of a repaired recording, with the paths. -/
def texts (options : RepairOptions) (repaired : Repaired) :
    List (Path × String) :=
  [(options.outputs.records, repaired.recordLines),
    (options.outputs.text, repaired.textForm options.statistics)] ++
    if options.statistics then
      [(options.outputs.statistics, repaired.statistics.artifact)]
    else []

def outputPaths (options : RepairOptions) : List Path :=
  [options.outputs.records, options.outputs.text] ++
    if options.statistics then [options.outputs.statistics] else []

theorem map_texts (options : RepairOptions) (repaired : Repaired) :
    (options.texts repaired).map Prod.fst = options.outputPaths := by
  rw [texts, outputPaths, List.map_append]
  split <;> rfl

theorem mem_outputPaths {pair : Path × String}
    (member : pair ∈ options.texts repaired) :
    pair.1 ∈ options.outputPaths := by
  rw [← map_texts options repaired]
  exact List.mem_map_of_mem member

end RepairOptions

/-! ## Names of the outputs -/

namespace RepairOptions

/-- What stands behind the stem of the input in the names of the outputs: the
end of the new stem and the extension. -/
def endings : List (String × String) :=
  [(repairMark, "jsonl"), (repairMark, "txt"), (repairMark ++ "_stats", "json")]

/-- The name of an output. -/
def outputName (options : RepairOptions) (ending : String × String) : Path :=
  bytesOf (options.stem ++ ending.1) ++ dot :: bytesOf ending.2

theorem outputName_eq (options : RepairOptions) (ending : String × String) :
    options.outputName ending = bytesOf options.stem ++
      (bytesOf ending.1 ++ dot :: bytesOf ending.2) := by
  rw [outputName, bytesOf_append, List.append_assoc]

theorem outputPaths_sublist (options : RepairOptions) :
    options.outputPaths.Sublist (endings.map fun ending =>
      join options.directory (options.outputName ending)) := by
  have all : (endings.map fun ending =>
      join options.directory (options.outputName ending)) =
      [options.outputs.records, options.outputs.text,
        options.outputs.statistics] := by
    simp only [endings, List.map_cons, List.map_nil, outputName_eq, outputs,
      LogPaths.ofBase, bytesOf_append, List.append_assoc]
    rfl
  rw [all, outputPaths]
  split
  · exact List.Sublist.refl _
  · exact List.sublist_append_left _ _

theorem exists_ending {path : Path} (member : path ∈ options.outputPaths) :
    ∃ ending ∈ endings,
      join options.directory (options.outputName ending) = path :=
  List.mem_map.1 (options.outputPaths_sublist.subset member)

theorem ending_shape : ∀ ending ∈ endings,
    slash ∉ bytesOf ending.1 ++ dot :: bytesOf ending.2 ∧
      2 < (bytesOf ending.1).length ∧ dot ∉ bytesOf ending.2 := by
  decide

theorem endsWith_output (plain : '/' ∉ options.stem.toList)
    {ending : String × String} (member : ending ∈ endings) :
    EndsWith (join options.directory (options.outputName ending))
        (options.outputName ending) ∧
      IsProper (options.outputName ending) := by
  obtain ⟨endingPlain, long, -⟩ := ending_shape ending member
  rw [outputName_eq]
  refine ⟨endsWith_join _ ?_, .of_long ?_⟩
  · rw [List.mem_append, not_or]
    exact ⟨slash_not_mem_bytesOf plain, endingPlain⟩
  · rw [List.length_append, List.length_append]
    omega

/-- The stem is what is shown of the one of the file that is read. -/
theorem exists_name {place : Path}
    (resolved : files.resolve options.input = .ok place)
    (notDirectory : files.node? place ≠ some .directory) :
    ∃ name, EndsWith place name ∧ options.stem = shown (stemOf name) ∧
      '/' ∉ options.stem.toList := by
  obtain ⟨name, last, -, -, ends⟩ :=
    lastName?_of_resolve resolved notDirectory
  have stem_eq : options.stem = shown (stemOf name) := by
    rw [stem, stem?, last]
    rfl
  refine ⟨name, ends, stem_eq, ?_⟩
  rw [stem_eq]
  exact slash_not_mem_shown (slash_not_mem_stemOf ends.1)

/-- No output is written to the place of the file that is read. -/
theorem output_ne_input {place path : Path}
    (resolved : files.resolve options.input = .ok place)
    (notDirectory : files.node? place ≠ some .directory)
    (member : path ∈ options.outputPaths) (tree : FileTree) :
    tree.resolve path ≠ .ok place := by
  intro resolvedToo
  obtain ⟨name, ends, stem_eq, plain⟩ := exists_name resolved notDirectory
  obtain ⟨ending, among, rfl⟩ := exists_ending member
  obtain ⟨endsToo, proper⟩ := endsWith_output plain among
  obtain rfl : name = options.outputName ending :=
    ends.inj (endsWith_of_resolve endsToo proper resolvedToo)
  obtain ⟨-, long, noDot⟩ := ending_shape ending among
  -- The stem of the output is longer than the one of the input.
  have stemToo : stemOf (options.outputName ending) =
      bytesOf (options.stem ++ ending.1) := by
    refine stemOf_append (fun nothing => ?_) noDot
    rw [bytesOf_append, List.append_eq_nil_iff] at nothing
    rw [nothing.2] at long
    cases long
  rw [stemToo, shown_bytesOf] at stem_eq
  have lengths := congrArg (fun text => (bytesOf text).length) stem_eq
  simp only [bytesOf_append, List.length_append] at lengths
  omega

/-- No two outputs are written to one place. -/
theorem outputPaths_areApart (plain : '/' ∉ options.stem.toList) :
    options.outputPaths.Pairwise AreApart := by
  refine List.Pairwise.sublist options.outputPaths_sublist
    (List.pairwise_map.2 ?_)
  have different : endings.Pairwise fun first second =>
      bytesOf first.1 ++ dot :: bytesOf first.2 ≠
        bytesOf second.1 ++ dot :: bytesOf second.2 := by
    decide
  refine different.imp_of_mem fun member memberToo notSame => ?_
  obtain ⟨ends, proper⟩ := endsWith_output plain member
  obtain ⟨endsToo, properToo⟩ := endsWith_output plain memberToo
  refine areApart_of_endsWith ends endsToo proper properToo fun same => ?_
  rw [outputName_eq, outputName_eq] at same
  exact notSame (List.append_cancel_left same)

theorem texts_areApart (plain : '/' ∉ options.stem.toList)
    (repaired : Repaired) :
    (options.texts repaired).Pairwise fun first second =>
      AreApart first.1 second.1 := by
  have apart := outputPaths_areApart plain
  rw [← map_texts options repaired] at apart
  exact List.pairwise_map.1 apart

end RepairOptions

/-! ## The steps of a run -/

/-- `error.IsEarly` means that a run which ends with the error has not begun to
write a file. -/
def RepairError.IsEarly : RepairError → Prop
  | .unreadable _ _ => True
  | .undated _ _ => True
  | .uncreatable _ _ => True
  | .unwritable _ _ => False
  | .store _ => False

/-- The directory is created before anything is written. -/
theorem writeRepaired_uncreatable {prepared : FileTree} {error : FileError}
    (repaired : Repaired)
    (creation : files.createDirectories options.directory =
      (prepared, .error error)) :
    writeRepaired FileTree.writeText options repaired files =
      (prepared, [], .error (.uncreatable options.directory error)) := by
  rw [writeRepaired, creation]

/-- Writing the statistics is writing a text, but for the error. -/
theorem writeText_of_writeArtifact {after : FileTree} {path : Path}
    {statistics : Statistics} {result : Except StoreError Unit}
    (writing : writeArtifact FileTree.writeText files path statistics =
      (after, result)) :
    ∃ outcome, files.writeText path statistics.artifact = (after, outcome) ∧
      (outcome = .ok () ↔ result = .ok ()) := by
  unfold writeArtifact at writing
  split at writing
  · next failure =>
      cases writing
      exact ⟨_, failure, nofun, nofun⟩
  · next success =>
      cases writing
      exact ⟨_, success, fun _ => rfl, fun _ => rfl⟩

theorem writeRepaired_written {prepared after : FileTree} {notes : List Note}
    {result : Except RepairError Unit}
    (creation : files.createDirectories options.directory =
      (prepared, .ok ()))
    (writing : writeRepaired FileTree.writeText options repaired files =
      (after, notes, result)) :
    (result = .ok () ∧
      Written prepared (options.texts repaired) after true) ∨
    ∃ error, result = .error error ∧ ¬ error.IsEarly ∧
      Written prepared (options.texts repaired) after false := by
  rw [writeRepaired, creation] at writing
  rw [RepairOptions.texts]
  simp only at writing
  split at writing
  · next failure =>
      cases writing
      exact .inr ⟨_, rfl, id, .failed failure⟩
  · next first =>
      split at writing
      · next failure =>
          cases writing
          exact .inr ⟨_, rfl, id, .next first (.failed failure)⟩
      · next second =>
          split at writing
          · next wanted =>
              rw [if_pos wanted]
              split at writing
              · next failure =>
                  cases writing
                  obtain ⟨outcome, third, same⟩ :=
                    writeText_of_writeArtifact failure
                  cases outcome with
                  | error cause =>
                      exact .inr ⟨_, rfl, id,
                        .next first (.next second (.failed third))⟩
                  | ok _ => cases same.1 rfl
              · next success =>
                  cases writing
                  obtain ⟨outcome, third, same⟩ :=
                    writeText_of_writeArtifact success
                  obtain rfl := same.2 rfl
                  exact .inl ⟨rfl,
                    .next first (.next second (.next third (.nothing _)))⟩
          · next unwanted =>
              rw [if_neg unwanted]
              cases writing
              exact .inl ⟨rfl, .next first (.next second (.nothing _))⟩

theorem runRepair_unreadable {error : FileError}
    (unread : files.readText options.input = .error error) :
    (runRepair options files).files = files ∧
      (runRepair options files).result =
        .error (.unreadable options.input error) := by
  rw [runRepair, runRepairBy, unread]
  exact ⟨rfl, rfl⟩

theorem runRepair_undated {content : String} {error : RepairError}
    (read : files.readText options.input = .ok content)
    (undated : options.findDate files = .error error) :
    (runRepair options files).files = files ∧
      (runRepair options files).result = .error error := by
  rw [runRepair, runRepairBy, read]
  simp only [repairRecording]
  rw [undated]
  exact ⟨rfl, rfl⟩

theorem runRepair_of_repairs (repairs : options.Repairs files repaired) :
    ∃ report, (runRepair options files).files =
        (writeRepaired FileTree.writeText options repaired files).1 ∧
      (runRepair options files).result =
        (writeRepaired FileTree.writeText options repaired files).2.2.map fun _ => report := by
  obtain ⟨content, date, notes, read, dated, rfl⟩ := repairs
  rw [runRepair, runRepairBy, read]
  simp only [repairRecording]
  rw [dated]
  exact ⟨_, rfl, rfl⟩

/-- The two ways in which a run fails before anything is computed, and the
other runs. -/
theorem repairs_or_fails (options : RepairOptions) (files : FileTree) :
    (∃ error, (runRepair options files).files = files ∧
        (runRepair options files).result = .error error ∧ error.IsEarly) ∨
      ∃ repaired, options.Repairs files repaired := by
  cases read : files.readText options.input with
  | error error =>
      obtain ⟨same, result⟩ := runRepair_unreadable read
      exact .inl ⟨_, same, result, trivial⟩
  | ok content =>
      cases dated : options.findDate files with
      | error error =>
          obtain ⟨same, result⟩ := runRepair_undated read dated
          refine .inl ⟨_, same, result, ?_⟩
          unfold RepairOptions.findDate at dated
          split at dated
          · cases dated
          · split at dated
            · cases dated
              trivial
            · cases dated
      | ok found =>
          obtain ⟨date, notes⟩ := found
          exact .inr ⟨_, content, date, notes, read, dated, rfl⟩

/-! ## What a run changes -/

/-- A run that does not fail early writes its outputs after the directory was
created. -/
theorem runRepair_of_prepared {prepared : FileTree}
    (repairs : options.Repairs files repaired)
    (creation : files.createDirectories options.directory =
      (prepared, .ok ())) :
    ((runRepair options files).result.isOk = true ∧
      Written prepared (options.texts repaired)
        (runRepair options files).files true) ∨
    ∃ error, (runRepair options files).result = .error error ∧
      ¬ error.IsEarly ∧
      Written prepared (options.texts repaired)
        (runRepair options files).files false := by
  obtain ⟨report, files_eq, result_eq⟩ := runRepair_of_repairs repairs
  rw [files_eq, result_eq]
  cases writing : writeRepaired FileTree.writeText options repaired files with
  | mk after outcome =>
      obtain ⟨notes, result⟩ := outcome
      obtain ⟨rfl, written⟩ | ⟨error, rfl, late, written⟩ :=
        writeRepaired_written creation writing
      · exact .inl ⟨rfl, written⟩
      · exact .inr ⟨error, rfl, late, written⟩

theorem runRepair_of_uncreatable {prepared : FileTree} {error : FileError}
    (repairs : options.Repairs files repaired)
    (creation : files.createDirectories options.directory =
      (prepared, .error error)) :
    (runRepair options files).files = prepared ∧
      (runRepair options files).result =
        .error (.uncreatable options.directory error) := by
  obtain ⟨report, files_eq, result_eq⟩ := runRepair_of_repairs repairs
  rw [files_eq, result_eq, writeRepaired_uncreatable repaired creation]
  exact ⟨rfl, rfl⟩

theorem runRepair_changesWithin (options : RepairOptions) (files : FileTree) :
    ChangesWithin files (runRepair options files).files options.directory
      options.outputPaths := by
  obtain ⟨error, same, -, -⟩ | ⟨repaired, repairs⟩ :=
    repairs_or_fails options files
  · rw [same]
    exact .refl files options.directory options.outputPaths
  · have way := createDirectories_preparesWay files options.directory
    cases creation : files.createDirectories options.directory with
    | mk prepared outcome =>
        rw [creation] at way
        have before := way.changesWithin options.outputPaths
        cases outcome with
        | error error =>
            rw [(runRepair_of_uncreatable repairs creation).1]
            exact before
        | ok _ =>
            have among (pair : Path × String)
                (member : pair ∈ options.texts repaired) :
                pair.1 ∈ options.outputPaths :=
              RepairOptions.mem_outputPaths member
            rcases runRepair_of_prepared repairs creation with
              ⟨-, written⟩ | ⟨-, -, -, written⟩
            · exact before.trans (written.changesWithin among _)
            · exact before.trans (written.changesWithin among _)

/-- A run that fails early has at most created directories. -/
theorem runRepair_onlyPrepares {error : RepairError}
    (failed : (runRepair options files).result = .error error)
    (early : error.IsEarly) :
    OnlyPrepares files (runRepair options files).files := by
  obtain ⟨_, same, -, -⟩ | ⟨repaired, repairs⟩ :=
    repairs_or_fails options files
  · rw [same]
    exact .refl files
  · have prepares :=
      createDirectories_onlyPrepares files options.directory
    cases creation : files.createDirectories options.directory with
    | mk prepared outcome =>
        rw [creation] at prepares
        cases outcome with
        | error cause =>
            rw [(runRepair_of_uncreatable repairs creation).1]
            exact prepares
        | ok _ =>
            rcases runRepair_of_prepared repairs creation with
              ⟨success, -⟩ | ⟨other, failedToo, late, -⟩
            · rw [failed] at success
              cases success
            · rw [failed] at failedToo
              cases failedToo
              exact absurd early late

theorem find_runRepair (options : RepairOptions) (files : FileTree) :
    (runRepair options files).files.find options.input =
      files.find options.input := by
  cases read : files.readText options.input with
  | error error => rw [(runRepair_unreadable read).1]
  | ok content =>
      obtain ⟨place, resolved, something, notDirectory⟩ :=
        exists_place_of_readText read
      have changes := runRepair_changesWithin options files
      have same : (runRepair options files).files.node? place =
          files.node? place := by
        by_contra different
        rcases changes.changed place different with
          ⟨nothing, -, -⟩ | ⟨path, among, resolvedToo⟩
        · exact something nothing
        · exact RepairOptions.output_ne_input resolved notDirectory among _
            resolvedToo
      rw [FileTree.find, FileTree.find, changes.kept.resolve resolved,
        resolved]
      simp only [Except.bind]
      rw [same]

/-- A run that succeeds leaves in each of its files what was computed. -/
theorem runRepair_readBytes {report : RepairReport}
    (success : (runRepair options files).result = .ok report) :
    ∃ repaired, options.Repairs files repaired ∧
      ∀ pair ∈ options.texts repaired,
        (runRepair options files).files.readBytes pair.1 =
          .ok (bytesOf pair.2) := by
  obtain ⟨error, -, failed, -⟩ | ⟨repaired, repairs⟩ :=
    repairs_or_fails options files
  · rw [success] at failed
    cases failed
  · refine ⟨repaired, repairs, ?_⟩
    have plain : '/' ∉ options.stem.toList := by
      obtain ⟨content, -, -, read, -, -⟩ := repairs
      obtain ⟨place, resolved, -, notDirectory⟩ :=
        exists_place_of_readText read
      obtain ⟨-, -, -, plain⟩ :=
        RepairOptions.exists_name resolved notDirectory
      exact plain
    cases creation : files.createDirectories options.directory with
    | mk prepared outcome =>
        cases outcome with
        | error cause =>
            rw [(runRepair_of_uncreatable repairs creation).2] at success
            cases success
        | ok _ =>
            rcases runRepair_of_prepared repairs creation with
              ⟨-, written⟩ | ⟨other, failed, -, -⟩
            · exact written.readBytes rfl
                (RepairOptions.texts_areApart plain repaired)
            · rw [success] at failed
              cases failed

/-- A run succeeds if its directory can be created and its files written. -/
theorem runRepair_isOk {prepared : FileTree}
    (repairs : options.Repairs files repaired)
    (creation : files.createDirectories options.directory =
      (prepared, .ok ()))
    (writable : ∀ path ∈ options.outputPaths, prepared.IsWritable path) :
    ∃ report, (runRepair options files).result = .ok report := by
  obtain ⟨success, -⟩ | ⟨error, -, -, written⟩ :=
    runRepair_of_prepared repairs creation
  · cases result : (runRepair options files).result with
    | error error =>
        rw [result] at success
        cases success
    | ok report => exact ⟨report, rfl⟩
  · cases written.all_of_isWritable fun pair member =>
      writable pair.1 (RepairOptions.mem_outputPaths member)

/-! ## Traces that cannot be read -/

namespace RepairOptions

/-- The options with the trace at a path. -/
def withTrace (options : RepairOptions) (trace : Path) : RepairOptions :=
  { options with trace := some trace }

theorem withTrace_outputs (trace : Path) :
    (options.withTrace trace).outputs = options.outputs :=
  rfl

theorem withTrace_statistics (trace : Path) :
    (options.withTrace trace).statistics = options.statistics :=
  rfl

theorem texts_withTrace (trace : Path) (repaired : Repaired) :
    (options.withTrace trace).texts repaired = options.texts repaired := by
  rw [texts, texts, withTrace_outputs, withTrace_statistics]

theorem writeRepaired_withTrace (trace : Path) (repaired : Repaired) :
    writeRepaired FileTree.writeText (options.withTrace trace) repaired
        files =
      writeRepaired FileTree.writeText options repaired files := by
  have directory_eq : (options.withTrace trace).directory =
      options.directory := rfl
  rw [writeRepaired, writeRepaired, directory_eq, withTrace_outputs,
    withTrace_statistics]

theorem findTrace_of_error {error : FileError}
    (unread : files.readBytes options.tracePath = .error error) :
    (options.findTrace files).1 = "" := by
  rw [findTrace, unread]

theorem findTrace_of_empty {trace : Path}
    (empty : files.readBytes trace = .ok []) :
    ((options.withTrace trace).findTrace files).1 = "" := by
  have path_eq : (options.withTrace trace).tracePath = trace := rfl
  rw [findTrace, path_eq, empty]
  rfl

/-- What is computed depends on the record file, its date and the text of the
trace alone. -/
theorem repairs_withTrace {later : FileTree} {trace : Path}
    (sameText : later.readText options.input = files.readText options.input)
    (sameDate : later.modifiedOn options.input =
      files.modifiedOn options.input)
    (sameTrace : ((options.withTrace trace).findTrace later).1 =
      (options.findTrace files).1) :
    (options.withTrace trace).Repairs later repaired ↔
      options.Repairs files repaired := by
  have dates : (options.withTrace trace).findDate later =
      options.findDate files := by
    show options.findDate later = _
    rw [findDate, findDate, sameDate]
  rw [Repairs, Repairs, dates, sameTrace]
  show (∃ content date notes, later.readText options.input = _ ∧ _) ↔ _
  rw [sameText]
  exact Iff.rfl

theorem Repairs.unique {other : Repaired}
    (repairs : options.Repairs files repaired)
    (repairsToo : options.Repairs files other) : repaired = other := by
  obtain ⟨content, date, notes, read, dated, rfl⟩ := repairs
  obtain ⟨contentToo, dateToo, notesToo, readToo, datedToo, rfl⟩ := repairsToo
  obtain rfl := Except.ok.inj (read.symm.trans readToo)
  obtain ⟨rfl, -⟩ := Prod.mk.inj (Except.ok.inj (dated.symm.trans datedToo))
  rfl

end RepairOptions

theorem runRepair_withTrace {trace : Path}
    (sameTrace : ((options.withTrace trace).findTrace files).1 =
      (options.findTrace files).1) :
    (runRepair (options.withTrace trace) files).files =
        (runRepair options files).files ∧
      (runRepair (options.withTrace trace) files).result =
        (runRepair options files).result := by
  have input_eq : (options.withTrace trace).input = options.input := rfl
  have dates : (options.withTrace trace).findDate files =
      options.findDate files := rfl
  rw [runRepair, runRepair, runRepairBy, runRepairBy, input_eq]
  cases files.readText options.input with
  | error error => exact ⟨rfl, rfl⟩
  | ok content =>
      simp only [repairRecording]
      rw [dates]
      cases options.findDate files with
      | error error => exact ⟨rfl, rfl⟩
      | ok found =>
          simp only [sameTrace, RepairOptions.writeRepaired_withTrace]
          exact ⟨rfl, rfl⟩

/-- When a run fails early. -/
theorem isEarly_iff (options : RepairOptions) (files : FileTree) :
    (∃ error, (runRepair options files).result = .error error ∧
        error.IsEarly) ↔
      (∀ repaired, ¬ options.Repairs files repaired) ∨
        ∃ error, (files.createDirectories options.directory).2 =
          .error error := by
  constructor
  · rintro ⟨error, failed, early⟩
    by_contra neither
    rw [not_or, not_forall, not_exists] at neither
    obtain ⟨⟨repaired, repairs⟩, created⟩ := neither
    rw [not_not] at repairs
    cases creation : files.createDirectories options.directory with
    | mk prepared outcome =>
        rw [creation] at created
        cases outcome with
        | error cause => exact created cause rfl
        | ok _ =>
            rcases runRepair_of_prepared repairs creation with
              ⟨success, -⟩ | ⟨other, failedToo, late, -⟩
            · rw [failed] at success
              cases success
            · rw [failed] at failedToo
              cases failedToo
              exact late early
  · intro either
    obtain ⟨error, -, failed, early⟩ | ⟨repaired, repairs⟩ :=
      repairs_or_fails options files
    · exact ⟨error, failed, early⟩
    · rcases either with never | ⟨cause, failed⟩
      · exact absurd repairs (never repaired)
      · exact ⟨_, (runRepair_of_uncreatable repairs
          (Prod.ext rfl failed)).2, trivial⟩

/-! ## Files with several names -/

/-- `options.WritesAlone links files` means that what the outputs are written
to, once their directory has been created, has no other name. -/
def RepairOptions.WritesAlone (options : RepairOptions) (links : Links)
    (files : FileTree) : Prop :=
  ∀ path ∈ options.outputPaths,
    links.IsSole (files.createDirectories options.directory).1 path

instance (options : RepairOptions) (links : Links) (files : FileTree) :
    Decidable (options.WritesAlone links files) :=
  inferInstanceAs (Decidable (∀ path ∈ options.outputPaths,
    links.IsSole (files.createDirectories options.directory).1 path))

variable {links : Links}

/-- The paths that lead to no file with another name still do so after one of
the files has been written. -/
theorem areSole_writeText {paths : List Path}
    (sole : ∀ path ∈ paths, links.IsSole files path) (path : Path)
    (text : String) :
    ∀ pathToo ∈ paths, links.IsSole (files.writeText path text).1 pathToo :=
  fun pathToo member =>
    (sole pathToo member).keep (writeText_keepsBack files path text)

theorem writeRepaired_of_writesAlone (alone : options.WritesAlone links files)
    (repaired : Repaired) :
    writeRepaired links.writeText options repaired files =
      writeRepaired FileTree.writeText options repaired files := by
  have records : options.outputs.records ∈ options.outputPaths :=
    List.mem_append_left _ List.mem_cons_self
  have text : options.outputs.text ∈ options.outputPaths :=
    List.mem_append_left _ (by simp)
  rw [RepairOptions.WritesAlone] at alone
  rw [writeRepaired, writeRepaired]
  generalize files.createDirectories options.directory = reached at alone ⊢
  obtain ⟨prepared, failure | success⟩ := reached
  · rfl
  · simp only at alone ⊢
    rw [Links.writeText_of_isSole (alone _ records)]
    have aloneToo := areSole_writeText alone options.outputs.records
      repaired.recordLines
    generalize prepared.writeText options.outputs.records
      repaired.recordLines = reached at aloneToo ⊢
    obtain ⟨between, failure | success⟩ := reached
    · rfl
    · simp only at aloneToo ⊢
      rw [Links.writeText_of_isSole (aloneToo _ text)]
      have aloneStill := areSole_writeText aloneToo options.outputs.text
        (repaired.textForm options.statistics)
      generalize between.writeText options.outputs.text
        (repaired.textForm options.statistics) = reached at aloneStill ⊢
      obtain ⟨last, failure | success⟩ := reached
      · rfl
      · simp only at aloneStill ⊢
        split
        · next wanted =>
            have statistics :
                options.outputs.statistics ∈ options.outputPaths := by
              rw [RepairOptions.outputPaths, if_pos wanted]
              simp
            rw [writeArtifact, writeArtifact,
              Links.writeText_of_isSole (aloneStill _ statistics)]
        · rfl

/-- If nothing that is written has another name, links make no difference. -/
theorem runRepairBy_of_writesAlone
    (alone : options.WritesAlone links files) :
    runRepairBy links.writeText options files = runRepair options files := by
  rw [runRepair, runRepairBy, runRepairBy]
  simp only [repairRecording, writeRepaired_of_writesAlone alone]

/-- Unless an output that is written has another name, the file that is read is
found as it was after every run, and no path of an output leads to it in any
tree. A run that fails before it writes, which is one that cannot read or date
its input or create its directory, has at most created directories. Every run
changes nothing but directories on the way of its own and what the paths of its
outputs lead to, and one that succeeds leaves in them what the repair of the
records with the trace is written as. A trace that cannot be read is as good as
an empty one, in the same tree or in another one with the same input. -/
theorem repair_spares_its_source {links : Links} {options : RepairOptions}
    {files : FileTree} (alone : options.WritesAlone links files) :
    let run := runRepairBy links.writeText options files
    (run.files.find options.input = files.find options.input ∧
      ∀ place, files.resolve options.input = .ok place →
        files.node? place ≠ some .directory →
          ∀ path ∈ options.outputPaths, ∀ tree : FileTree,
            tree.resolve path ≠ .ok place) ∧
    (∀ error, run.result = .error error → error.IsEarly →
      OnlyPrepares files run.files) ∧
    ((∃ error, run.result = .error error ∧ error.IsEarly) ↔
      (∀ repaired, ¬ options.Repairs files repaired) ∨
        ∃ error, (files.createDirectories options.directory).2 =
          .error error) ∧
    ChangesWithin files run.files options.directory options.outputPaths ∧
    (∀ report, run.result = .ok report →
      ∃ repaired, options.Repairs files repaired ∧
        ∀ pair ∈ options.texts repaired,
          run.files.readBytes pair.1 = .ok (bytesOf pair.2)) ∧
    ∀ error trace linksToo later,
      files.readBytes options.tracePath = .error error →
      later.readBytes trace = .ok [] →
      later.readText options.input = files.readText options.input →
      later.modifiedOn options.input = files.modifiedOn options.input →
      (options.withTrace trace).WritesAlone linksToo later →
        let runToo :=
          runRepairBy linksToo.writeText (options.withTrace trace) later
        (later = files →
          runToo.files = run.files ∧ runToo.result = run.result) ∧
        ∀ report reportToo, run.result = .ok report →
          runToo.result = .ok reportToo →
          ∀ path ∈ options.outputPaths,
            runToo.files.readBytes path = run.files.readBytes path := by
  rw [runRepairBy_of_writesAlone alone]
  intro run
  refine ⟨⟨find_runRepair options files, ?_⟩, ?_, isEarly_iff options files,
    runRepair_changesWithin options files, ?_, ?_⟩
  · intro place resolved notDirectory path member tree
    exact RepairOptions.output_ne_input resolved notDirectory member tree
  · intro error failed early
    exact runRepair_onlyPrepares failed early
  · intro report success
    exact runRepair_readBytes success
  · intro error trace linksToo later unread empty sameText sameDate aloneToo
    rw [runRepairBy_of_writesAlone aloneToo]
    intro runToo
    have sameTrace : ((options.withTrace trace).findTrace later).1 =
        (options.findTrace files).1 := by
      rw [RepairOptions.findTrace_of_error unread,
        RepairOptions.findTrace_of_empty empty]
    refine ⟨?_, ?_⟩
    · rintro rfl
      exact runRepair_withTrace sameTrace
    · intro report reportToo success successToo path member
      obtain ⟨repaired, repairs, written⟩ := runRepair_readBytes success
      obtain ⟨other, repairsToo, writtenToo⟩ := runRepair_readBytes successToo
      obtain rfl : repaired = other := repairs.unique
        ((RepairOptions.repairs_withTrace sameText sameDate sameTrace).1
          repairsToo)
      rw [RepairOptions.texts_withTrace] at writtenToo
      rw [← RepairOptions.map_texts options repaired] at member
      obtain ⟨pair, among, rfl⟩ := List.mem_map.1 member
      exact (writtenToo pair among).trans (written pair among).symm

/-- A record file. -/
def logPath : Path :=
  bytesOf "logs/protocol_room_19700101_100000.jsonl"

/-- The first of the files that repairing it writes. -/
def repairedPath : Path :=
  bytesOf "logs/protocol_room_19700101_100000_REPAIRED.jsonl"

def backupPath : Path :=
  bytesOf "backup.jsonl"

/-- Options that leave everything to be found out. -/
def sparseOptions : RepairOptions where
  input := logPath
  trace := none
  outputDirectory := none
  date := none
  start := none
  finish := none
  room := none
  statistics := true
  logger := defaultLogger

def textFile (text : String) : Node :=
  .file (bytesOf text) .epoch

/-- A record file with a trace beside it and with a copy, and an empty file. -/
def copiedLog (content : String) (copy : Path) : FileTree :=
  (((((FileTree.empty .epoch).put (bytesOf "empty.txt") (textFile "")).put
    (bytesOf "logs") .directory).put
      (bytesOf "logs/transcribe.txt") (textFile spokenTrace)).put
        logPath (textFile content)).put copy (textFile content)

/-- The record file and its copy are one file. -/
def copyLinks (copy : Path) : Links where
  number place := if place = logPath ∨ place = copy then some 0 else none

theorem node?_copiedLog (content : String) {copy place : Path}
    (notRoot : copy ≠ []) (named : place = logPath ∨ place = copy) :
    (copiedLog content copy).node? place = some (textFile content) := by
  rw [copiedLog, node?_put notRoot]
  split
  · rfl
  · next notCopy =>
      rw [node?_put (by decide), if_pos (named.resolve_right notCopy)]

theorem copyLinks_fits (content : String) {copy : Path}
    (notRoot : copy ≠ []) :
    (copyLinks copy).Fits (copiedLog content copy) := by
  have found (place : Path)
      (numbered : (copyLinks copy).number place ≠ none) :
      (copiedLog content copy).node? place = some (textFile content) := by
    refine node?_copiedLog content notRoot ?_
    by_contra neither
    exact numbered (if_neg neither)
  constructor
  · intro place numbered
    exact ⟨_, _, found place numbered⟩
  · intro place name numbered same
    rw [found place numbered, found name (same ▸ numbered)]

/-- The date and the room are told by the file name and the header. -/
theorem repairs_torn :
    sparseOptions.Repairs
      (copiedLog (recordText torn.records) backupPath)
      (torn.repair defaultLogger spokenTrace
        (Window.ofRecording torn .epoch none none) "room") := by
  have resolved : (copiedLog (recordText torn.records) backupPath).resolve
      logPath = .ok logPath := by
    decide +kernel
  have read : (copiedLog (recordText torn.records) backupPath).readText
      logPath = .ok (recordText torn.records) :=
    readText_eq resolved ⟨_, node?_copiedLog _ (by decide) (.inl rfl)⟩
  have dated : sparseOptions.findDate
      (copiedLog (recordText torn.records) backupPath) = .ok (.epoch, []) := by
    decide +kernel
  have traced : (sparseOptions.findTrace
      (copiedLog (recordText torn.records) backupPath)).1 = spokenTrace := by
    have bytes : (copiedLog (recordText torn.records) backupPath).readBytes
        sparseOptions.tracePath = .ok (bytesOf spokenTrace) := by
      decide +kernel
    rw [RepairOptions.findTrace, bytes]
    exact shown_bytesOf spokenTrace
  refine ⟨_, _, _, read, dated, ?_⟩
  rw [read_torn, traced]
  rfl

/-- Options that name a trace which is not there. -/
def lostTrace : RepairOptions :=
  sparseOptions.withTrace (bytesOf "lost.txt")

/-- A record file that has a backup under another name is repaired from the trace
beside it, and from a trace that is lost as from an empty one. -/
theorem repair_spares_its_source_of_torn :
    let files := copiedLog (recordText torn.records) backupPath
    let links := copyLinks backupPath
    let run := runRepairBy links.writeText sparseOptions files
    links.Fits files ∧ sparseOptions.WritesAlone links files ∧
      run.files.find logPath = files.find logPath ∧
      (∃ repaired, repaired.recovered = 1 ∧
        sparseOptions.Repairs files repaired ∧
        ∀ pair ∈ sparseOptions.texts repaired,
          run.files.readBytes pair.1 = .ok (bytesOf pair.2)) ∧
      files.readBytes lostTrace.tracePath = .error .notFound ∧
      (runRepairBy links.writeText
        (lostTrace.withTrace (bytesOf "empty.txt")) files).files =
          (runRepairBy links.writeText lostTrace files).files := by
  intro files links run
  have alone : sparseOptions.WritesAlone links files := by decide +kernel
  obtain ⟨⟨spared, -⟩, -, -, -, written, -⟩ := repair_spares_its_source alone
  have created : (files.createDirectories sparseOptions.directory).2 =
      .ok () := by
    decide +kernel
  have writable : ∀ path ∈ sparseOptions.outputPaths,
      (files.createDirectories sparseOptions.directory).1.IsWritable path := by
    decide +kernel
  obtain ⟨report, success⟩ :=
    runRepair_isOk repairs_torn (Prod.ext rfl created) writable
  rw [← runRepairBy_of_writesAlone alone] at success
  obtain ⟨repaired, repairs, texts⟩ := written report success
  obtain rfl := repairs.unique repairs_torn
  refine ⟨copyLinks_fits _ (by decide), alone, spared,
    ⟨_, recovered_torn, repairs, texts⟩, ?_⟩
  have lost : files.readBytes lostTrace.tracePath = .error .notFound := by
    decide +kernel
  have aloneToo : lostTrace.WritesAlone links files := alone
  obtain ⟨-, -, -, -, -, traces⟩ := repair_spares_its_source aloneToo
  exact ⟨lost, ((traces _ (bytesOf "empty.txt") links files lost
    (by decide +kernel) rfl rfl alone).1 rfl).1⟩

/-- A record file that has lost its header. -/
def headless : String :=
  recordText [.core (.lifecycle ⟨afterTen 0 0, "ada", .joined⟩)]

/-- If the copy has the name of an output, the record file is overwritten.
Directories are made on the way of the path that is given, even where it leads
back from them. -/
theorem repair_overwrites_its_copy :
    (copyLinks repairedPath).Fits (copiedLog headless repairedPath) ∧
    (copiedLog headless repairedPath).readBytes logPath =
      .ok (bytesOf headless) ∧
    (runRepairBy (copyLinks repairedPath).writeText sparseOptions
      (copiedLog headless repairedPath)).files.readBytes logPath ≠
        .ok (bytesOf headless) ∧
    let files := copiedLog headless backupPath
    let options :=
      { sparseOptions with outputDirectory := some (bytesOf "new/../out") }
    let run := runRepair options files
    run.result.isOk = true ∧
      run.files.resolve options.directory = .ok (bytesOf "out") ∧
      files.node? (bytesOf "new") = none ∧
      run.files.node? (bytesOf "new") = some .directory := by
  refine ⟨copyLinks_fits headless (by decide), by decide +kernel,
    by decide +kernel, ?_⟩
  decide +kernel

end MeetingLog
