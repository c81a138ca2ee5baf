import MeetingLog.Proofs.Meeting.Log
import MeetingLog.Proofs.Store.Noting
import MeetingLog.Proofs.Trace.Told

/-!
# What a meeting notes besides its records

Most notes of a meeting tell of no record. None of them breaks a line either,
as long as the names, paths and reasons that they quote do not.
-/

namespace MeetingLog

open MeetingLog.Calendar
open MeetingLog.Files
open MeetingLog.Number
open MeetingLog.Text
open MeetingLog.Trace

/-! ## Texts on one line -/

theorem isOneLine_ofList {letters : List Char} (noFeed : '\n' ∉ letters) :
    IsOneLine (String.ofList letters) := by
  rw [IsOneLine, String.toList_ofList]
  exact noFeed

theorem isOneLine_numeral (number : Nat) : IsOneLine (numeral number) :=
  isOneLine_ofList (feed_not_mem_decimal number)

theorem isOneLine_minutesText (places milliseconds : Nat) :
    IsOneLine (minutesText places milliseconds) := by
  refine isOneLine_ofList ?_
  rw [writePlaces]
  split
  · exact feed_not_mem_decimal _
  · simp only [List.mem_append, List.mem_cons, feed_not_mem_decimal,
      feed_not_mem_fixedDigits, false_or, or_false]
    decide

theorem isOneLine_durationText (milliseconds : Nat) :
    IsOneLine (durationText milliseconds) := by
  have nothing : IsOneLine "0ns" := by decide
  have short : IsOneLine "ms" := by decide
  have long : IsOneLine "s" := by decide
  have point : IsOneLine "." := by decide
  have fraction : IsOneLine
      (String.ofList (fractionDigits (milliseconds % 1000))) := by
    refine isOneLine_ofList fun member => ?_
    have inReverse := (List.dropWhile_sublist _).mem (List.mem_reverse.1 member)
    exact feed_not_mem_fixedDigits _ _ (List.mem_reverse.1 inReverse)
  rw [durationText]
  split
  · exact nothing
  split
  · exact (isOneLine_numeral _).append short
  · split
    · exact (isOneLine_numeral _).append long
    · exact (((isOneLine_numeral _).append point).append fraction).append long

/-- What is shown of a path is on one line if the path has no line feed. -/
theorem isOneLine_shown {path : Path} (noFeed : 0x0A ∉ path) :
    IsOneLine (shown path) :=
  isOneLine_ofList fun member =>
    noFeed (mem_of_mem_decodeLenient (by decide) (by decide) member)

theorem feed_not_mem_bytesOf {text : String} (oneLine : IsOneLine text) :
    0x0A ∉ bytesOf text := fun member =>
  oneLine (mem_of_mem_encode (by decide) member)

theorem feed_not_mem_join {directory name : Path}
    (noFeed : 0x0A ∉ directory) (noFeedToo : 0x0A ∉ name) :
    0x0A ∉ join directory name := by
  rw [join]
  split
  · exact noFeedToo
  split
  · rw [List.mem_append, not_or]
    exact ⟨noFeed, noFeedToo⟩
  · rw [List.mem_append, List.mem_cons, not_or, not_or]
    exact ⟨noFeed, by decide, noFeedToo⟩

/-- `options.IsOneLine` means that neither the room nor the directory of a
store has a line feed. -/
structure StoreOptions.IsOneLine (options : StoreOptions) : Prop where
  room : Text.IsOneLine options.room
  directory : 0x0A ∉ options.directory

theorem StoreOptions.IsOneLine.statistics {options : StoreOptions}
    (oneLine : options.IsOneLine) :
    Text.IsOneLine (shown options.paths.statistics) := by
  have front : Text.IsOneLine "protocol_" := by decide
  have between : Text.IsOneLine "_" := by decide
  have ending : Text.IsOneLine "_stats.json" := by decide
  have date : Text.IsOneLine
      (String.ofList options.started.date.compactLetters) :=
    isOneLine_ofList (Date.feed_not_mem_compactLetters _)
  have time : Text.IsOneLine (String.ofList
      (fixedDigits 2 options.started.time.hour.val ++
        fixedDigits 2 options.started.time.minute.val ++
          fixedDigits 2 options.started.time.second.val)) := by
    refine isOneLine_ofList ?_
    simp only [List.mem_append, feed_not_mem_fixedDigits, or_self,
      not_false_iff]
  have base : Text.IsOneLine (baseName options.room options.started) :=
    ((((front.append oneLine.room).append between).append date).append
      between).append time
  rw [options.paths_eq]
  refine isOneLine_shown ?_
  rw [List.mem_append, not_or]
  exact ⟨feed_not_mem_join oneLine.directory (feed_not_mem_bytesOf base),
    feed_not_mem_bytesOf ending⟩

namespace Meeting

variable {identity : String}

/-! ## Notes about participants -/

theorem isAside_trackNote (name : IsName identity) :
    (trackNote identity).IsAside := by
  have begins : BeginsAside "Audio track subscribed from " := by
    decide
  exact isAside_info begins name.plain.isOneLine

theorem isAside_wakingNote : wakingNote.IsAside := by
  have begins : BeginsAside
      "Restarting transcription sessions after idle..." := by
    decide
  exact isAside_alone begins

theorem isAside_retryNote (name : IsName identity) :
    (retryNote identity).IsAside := by
  have begins : BeginsAside "Retrying transcription session for " := by
    decide
  exact isAside_info begins name.plain.isOneLine

theorem isAside_openingFailureNote (name : IsName identity) {reason : String}
    (oneLine : IsOneLine reason) :
    (openingFailureNote identity reason).IsAside := by
  have front : IsOneLine "Failed to start session for " := by decide
  have between : IsOneLine ": " := by decide
  exact isAside_error
    (((front.append name.plain.isOneLine).append between).append oneLine)

theorem isAside_openingNote (name : IsName identity) :
    (Note.info ("Starting transcription session for: " ++
      identity)).IsAside := by
  have begins : BeginsAside "Starting transcription session for: " := by
    decide
  exact isAside_info begins name.plain.isOneLine

theorem isAside_attachedNote (name : IsName identity) {session : String}
    (oneLine : IsOneLine session) :
    (attachedNote session identity).IsAside := by
  have begins : BeginsAside "Session " := by decide
  have between : IsOneLine " started for " := by decide
  rw [attachedNote, String.append_assoc, String.append_assoc]
  exact isAside_info begins
    (oneLine.append (between.append name.plain.isOneLine))

theorem isAside_closingFailureNote (name : IsName identity) {reason : String}
    (oneLine : IsOneLine reason) :
    (Note.error ("Error closing session for " ++ identity ++ ": " ++
      reason)).IsAside := by
  have front : IsOneLine "Error closing session for " := by decide
  have between : IsOneLine ": " := by decide
  exact isAside_error
    (((front.append name.plain.isOneLine).append between).append oneLine)

theorem isAside_strangerNote (name : IsName identity) :
    (Note.warning ("Transcript from untracked participant " ++
      identity)).IsAside := by
  have front : IsOneLine "Transcript from untracked participant " := by
    decide
  exact isAside_warning (front.append name.plain.isOneLine)

theorem isAside_pausedNote {participant : Participant}
    (name : IsName participant.identity) (meeting : Meeting) :
    (meeting.pausedNote participant).IsAside := by
  have begins : BeginsAside "Closing session for " := by decide
  have between : IsOneLine " (idle " := by decide
  have ending : IsOneLine " min)" := by decide
  rw [pausedNote]
  simp only [String.append_assoc]
  exact isAside_info begins (name.plain.isOneLine.append
    (between.append ((isOneLine_minutesText _ _).append ending)))

/-! ## Notes about the whole meeting -/

theorem isAside_pauseNote (timeout : Nat) : (pauseNote timeout).IsAside := by
  have front : IsOneLine "All participants idle for " := by decide
  have ending : IsOneLine "+ min - pausing transcription" := by
    decide
  exact isAside_warning
    ((front.append (isOneLine_minutesText _ _)).append ending)

theorem isAside_channelNote :
    (Note.info "Room event channel closed").IsAside := by
  have begins : BeginsAside "Room event channel closed" := by decide
  exact isAside_alone begins

theorem isAside_closingNote :
    (Note.info "Closing protocol manager...").IsAside := by
  have begins : BeginsAside "Closing protocol manager..." := by
    decide
  exact isAside_alone begins

theorem isAside_graceNote (grace : Nat) :
    (Note.warning ("Pending session operations did not finish within " ++
      durationText grace ++ ", aborting")).IsAside := by
  have front : IsOneLine
      "Pending session operations did not finish within " := by
    decide
  have ending : IsOneLine ", aborting" := by decide
  exact isAside_warning
    ((front.append (isOneLine_durationText _)).append ending)

theorem isAside_failureNotes (failures : Nat) :
    ∀ note ∈ failureNotes failures, note.IsAside := by
  intro note member
  have ending : IsOneLine " session(s) failed to close cleanly" := by
    decide
  rw [failureNotes] at member
  split at member
  · exact absurd member List.not_mem_nil
  · obtain rfl := List.mem_singleton.1 member
    exact isAside_warning ((isOneLine_numeral _).append ending)

theorem isAside_closedNote :
    (Note.info "Protocol manager closed").IsAside := by
  have begins : BeginsAside "Protocol manager closed" := by decide
  exact isAside_alone begins

theorem isAside_beginningNotes (options : MeetingOptions) :
    ∀ note ∈ beginningNotes options, note.IsAside := by
  intro note member
  have begins : BeginsAside "Idle timeout enabled: " := by decide
  have ending : IsOneLine " minutes" := by decide
  have listening : BeginsAside
      "Protocol manager started, listening for participants" := by
    decide
  rcases List.mem_append.1 member with (enabled | started)
  · cases timeout : options.idleTimeout with
    | none =>
        rw [timeout] at enabled
        exact absurd enabled List.not_mem_nil
    | some limit =>
        rw [timeout] at enabled
        obtain rfl := List.mem_singleton.1 enabled
        rw [String.append_assoc]
        exact isAside_info begins
          ((isOneLine_minutesText _ _).append ending)
  · obtain rfl := List.mem_singleton.1 started
    exact isAside_alone listening

/-! ## Notes of the store -/

theorem isAside_notes_start {store : Store} (oneLine : store.options.IsOneLine)
    (files : FileTree) :
    ∀ note ∈ (store.start files).notes, note.IsAside := by
  intro note member
  have begins : BeginsAside "Protocol files created: protocol_" := by
    decide
  obtain rfl := Store.mem_notes_start member
  exact isAside_info begins oneLine.room

theorem isAside_notes_finalize {store : Store}
    (oneLine : store.options.IsOneLine) (files : FileTree) (ended : Moment) :
    ∀ note ∈ (store.finalize files ended).notes, note.IsAside := by
  intro note member
  have begins : BeginsAside "Statistics saved to: " := by decide
  rcases Store.mem_notes_finalize member with (rfl | rfl)
  · exact isAside_debug _
  · exact isAside_info begins oneLine.statistics

end Meeting

end MeetingLog
