import MeetingLog.Proofs.Record.Torn
import MeetingLog.Proofs.Store.Views

/-!
# Record files cut off by a crash

A store writes a record with its line feed at once, so that a crash leaves some
first bytes of what the record file would have held. Whatever their number,
they are read as the header, the footer and the core records whose closing
braces are among them.
-/

namespace MeetingLog

open MeetingLog.Calendar
open MeetingLog.Files
open MeetingLog.Text

namespace Store

/-- The files that a store leaves behind, finalized or not. -/
def filesLeft (store : Store) (files : FileTree) :
    Option Moment → FileTree
  | none => files
  | some ended => (store.finalize files ended).files

theorem IsRecording.readBytes_filesLeft {options : StoreOptions}
    {store : Store} {files : FileTree} {entries : List CoreRecord}
    (recording : IsRecording options store files entries)
    (wanted : options.format.writesRecords = true) (ended : Option Moment) :
    (store.filesLeft files ended).readBytes options.paths.records =
      .ok (bytesOf (options.recordView entries ended)) := by
  cases ended with
  | none =>
      have content : options.recordView entries none =
          options.recordContent entries :=
        congrArg recordText (List.append_nil _)
      rw [content]
      exact recording.lines.readBytes wanted
  | some ended =>
      have shown := (recording.finalize_shows ended).2.readBytes wanted
      rw [StoreOptions.recordView, recordText_append]
      exact shown

end Store

/-- If the record file of a store is cut off at any byte, what is left is
well-formed text, and it is read as the header and the footer, if their closing
braces are left, and as exactly the leading core records whose closing braces
are left. -/
theorem torn_record_file_keeps_whole_lines {options : StoreOptions}
    {files written : FileTree} {store : Store} {entries : List CoreRecord}
    (wanted : options.format.writesRecords = true)
    (started : ((Store.new options).start files).result = .ok ())
    (taken : Store.Takes ((Store.new options).start files).store
      ((Store.new options).start files).files entries store written)
    (whole : ∀ entry ∈ entries, entry.time.IsWhole)
    (ended : Option Moment) :
    let header : Header :=
      { options.header with startedAt := options.started.time.wholeSecond }
    let footer? : Option Footer :=
      ended.map fun ended => ⟨ended.time.wholeSecond⟩
    ∃ bytes, (store.filesLeft written ended).readBytes options.paths.records =
        .ok bytes ∧
      ∀ size, ∃ letters kept, decode? (bytes.take size) = some letters ∧
        Recording.read (String.ofList letters) =
          { header :=
              if braceEnd [] (.header header) ≤ size then some header else none
            footer := footer?.filter fun footer =>
              braceEnd (.header header :: entries.map Record.core)
                (.footer footer) ≤ size
            core := entries.take kept } ∧
        ∀ front entry back, entries = front ++ entry :: back →
          (front.length < kept ↔
            braceEnd (.header header :: front.map Record.core)
              (.core entry) ≤ size) := by
  intro header footer?
  have recording : Store.IsRecording options store written entries :=
    (Store.start_isRecording started).takes taken
  refine ⟨_, recording.readBytes_filesLeft wanted ended, fun size => ?_⟩
  rw [StoreOptions.recordView_eq, decode?_take_recordText]
  obtain ⟨kept, read, braces⟩ :=
    Recording.read_take (options.isWhole_recordingOf whole ended) size
  exact ⟨_, kept, rfl, read, braces⟩

/-- A store that has taken one record and was finalized, and whose record file
is cut off in front of its last closing brace: only the footer is lost. -/
theorem torn_record_file_of_adaJoined :
    let begun := (Store.new thorough).start (FileTree.empty .epoch)
    let step := begun.store.appendCore begun.files adaJoined
    let ended := Date.epoch.atTime .endOfDay
    ∃ bytes letters,
      (step.store.filesLeft step.files ended).readBytes
        thorough.paths.records = .ok bytes ∧
      decode? (bytes.take 217) = some letters ∧
      Recording.read (String.ofList letters) =
        ⟨some thorough.header, none, [adaJoined]⟩ := by
  intro begun step ended
  have started : begun.result = .ok () :=
    (Store.start_of_hasRoom hasRoom_thorough).1
  have taken : step.result = .ok () :=
    ((Store.start_isRecording started).appendCore adaJoined).1
  obtain ⟨bytes, read, cut⟩ := torn_record_file_keeps_whole_lines
    (by decide : thorough.format.writesRecords = true) started
    (Store.Takes.single taken) (by decide) (some ended)
  obtain ⟨letters, kept, text, recording, braces⟩ := cut 217
  have headerEnd : braceEnd [] (.header thorough.header) = 91 := by
    rw [braceEnd_nil]
    decide +kernel
  have entryEnd :
      braceEnd [.header thorough.header] (.core adaJoined) = 175 := by
    rw [braceEnd_cons, braceEnd_nil]
    decide +kernel
  have footerEnd : braceEnd [.header thorough.header, .core adaJoined]
      (.footer ⟨.endOfDay⟩) = 218 := by
    rw [braceEnd_cons, braceEnd_cons, braceEnd_nil]
    decide +kernel
  have headerKept : (if braceEnd [] (.header thorough.header) ≤ 217 then
      some thorough.header else none) = some thorough.header :=
    if_pos (by omega)
  have footerLost : (some (Footer.mk .endOfDay)).filter (fun footer =>
      braceEnd [.header thorough.header, .core adaJoined] (.footer footer) ≤
        217) = none :=
    Option.filter_some_neg (by rw [footerEnd]; decide)
  have positive : 0 < kept :=
    (braces [] adaJoined [] rfl).2 (Nat.le_trans (Nat.le_of_eq entryEnd)
      (by decide))
  have allKept : [adaJoined].take kept = [adaJoined] :=
    List.take_of_length_le positive
  have same := (Recording.mk.injEq _ _ _ _ _ _).mpr
    ⟨headerKept, footerLost, allKept⟩
  exact ⟨bytes, letters, read, text, recording.trans same⟩

end MeetingLog
