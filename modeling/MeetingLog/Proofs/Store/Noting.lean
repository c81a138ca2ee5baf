import MeetingLog.Proofs.Store.Taking

/-!
# What a store notes

A store that is started notes that its files have been created, and one that is
finalized where the statistics were saved. It notes nothing else that is shown.
-/

namespace MeetingLog

open MeetingLog.Calendar
open MeetingLog.Files
open MeetingLog.Trace

/-- `step.IsSilent options` means that nothing is noted in a step, which leads
to a store with the options. -/
structure StoreStep.IsSilent (step : StoreStep) (options : StoreOptions) :
    Prop where
  notes : step.notes = []
  options : step.store.options = options

theorem StoreStep.IsSilent.andThen {first : StoreStep}
    {second : Store → FileTree → StoreStep} {options : StoreOptions}
    (silent : first.IsSilent options)
    (silentToo : ∀ store files, store.options = options →
      (second store files).IsSilent options) :
    (first.andThen second).IsSilent options := by
  unfold StoreStep.andThen
  split
  · exact silent
  · have next := silentToo first.store first.files silent.options
    refine ⟨?_, next.options⟩
    show first.notes ++ (second first.store first.files).notes = []
    rw [silent.notes, next.notes, List.append_nil]

namespace Store

variable {store : Store} {files : FileTree} {options : StoreOptions}

/-- What is noted in two steps, the first of which is silent, is noted in the
second. -/
theorem mem_notes_andThen {first : StoreStep}
    {second : Store → FileTree → StoreStep} {note : Note}
    (silent : first.IsSilent options)
    (member : note ∈ (first.andThen second).notes) :
    note ∈ (second first.store first.files).notes := by
  unfold StoreStep.andThen at member
  split at member
  · rw [silent.notes] at member
    exact absurd member List.not_mem_nil
  · rw [silent.notes] at member
    exact member

/-! ## Starting -/

theorem isSilent_prepare (store : Store) (files : FileTree) :
    (store.prepare files).IsSilent store.options := by
  unfold prepare
  split <;> exact ⟨rfl, rfl⟩

theorem isSilent_openText (same : store.options = options)
    (files : FileTree) : (store.openText files).IsSilent options := by
  rw [← same]
  unfold openText
  split
  · split <;> exact ⟨rfl, rfl⟩
  · exact ⟨rfl, rfl⟩

theorem isSilent_openRecords (same : store.options = options)
    (files : FileTree) : (store.openRecords files).IsSilent options := by
  rw [← same]
  unfold openRecords
  split
  · split <;> exact ⟨rfl, rfl⟩
  · exact ⟨rfl, rfl⟩

theorem mem_notes_start {note : Note}
    (member : note ∈ (store.start files).notes) :
    note = Note.info ("Protocol files created: protocol_" ++
      store.options.room) := by
  have silent : (((store.prepare files).andThen openText).andThen
      openRecords).IsSilent store.options :=
    ((isSilent_prepare store files).andThen fun _ files same =>
      isSilent_openText same files).andThen fun _ files same =>
        isSilent_openRecords same files
  rw [start] at member
  split at member
  · have begun := mem_notes_andThen silent member
    rw [← silent.options]
    exact List.mem_singleton.1 begun
  · exact absurd member List.not_mem_nil

/-! ## Finalizing -/

theorem notes_writeText (text : String) (store : Store) (files : FileTree) :
    (store.writeText text files).notes = [] := by
  unfold writeText
  split
  · rfl
  · split <;> rfl

theorem notes_writeRecord (record : Record) (store : Store)
    (files : FileTree) :
    (store.writeRecord record files).notes = [] := by
  unfold writeRecord
  split
  · rfl
  · split <;> rfl

theorem isSilent_writeText (text : String) (store : Store)
    (files : FileTree) :
    (store.writeText text files).IsSilent store.options := by
  refine ⟨notes_writeText text store files, ?_⟩
  unfold writeText
  split
  · rfl
  · split <;> rfl

theorem isSilent_writeRecord (record : Record)
    (same : store.options = options) (files : FileTree) :
    (store.writeRecord record files).IsSilent options := by
  refine ⟨notes_writeRecord record store files, ?_⟩
  rw [← same]
  unfold writeRecord
  split
  · rfl
  · split <;> rfl

theorem mem_notes_writeStatistics {note : Note}
    (member : note ∈ (store.writeStatistics files).notes) :
    note = Note.info ("Statistics saved to: " ++
      shown store.options.paths.statistics) := by
  unfold writeStatistics at member
  split at member
  · simp only at member
    split at member
    · exact absurd member List.not_mem_nil
    · exact List.mem_singleton.1 member
  · exact absurd member List.not_mem_nil

/-- Of the last things that a store does only the writing of the statistics is
noted. -/
theorem mem_notes_closing {text : String} {record : Record} {note : Note}
    (member : note ∈ (((store.writeText text files).andThen
      (writeRecord record)).andThen writeStatistics).notes) :
    note = Note.info ("Statistics saved to: " ++
      shown store.options.paths.statistics) := by
  have silent : ((store.writeText text files).andThen
      (writeRecord record)).IsSilent store.options :=
    (isSilent_writeText text store files).andThen fun _ files same =>
      isSilent_writeRecord record same files
  have saved := mem_notes_andThen silent member
  rw [← silent.options]
  exact mem_notes_writeStatistics saved

theorem mem_notes_finalize {ended : Moment} {note : Note}
    (member : note ∈ (store.finalize files ended).notes) :
    note = Note.debug "finalize on a store that is not open, ignoring" ∨
      note = Note.info ("Statistics saved to: " ++
        shown store.options.paths.statistics) := by
  rw [finalize] at member
  split at member
  · have saved := mem_notes_closing member
    exact .inr saved
  · exact .inl (List.mem_singleton.1 member)

end Store

end MeetingLog
