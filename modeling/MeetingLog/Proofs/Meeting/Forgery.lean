import MeetingLog.Proofs.Meeting.Attendance
import MeetingLog.Proofs.Trace.Spoken

/-!
# Forged records

What somebody says is noted in the trace, and the trace is read back later. As
the name and the text are not quoted, a line feed in them ends the line, and
what follows it is read as if the recorder had noted it. Without line feeds
nothing can be forged, and a name without colons and blanks around it is the one
to which the speech is attributed.
-/

namespace MeetingLog

open MeetingLog.Calendar
open MeetingLog.Text
open MeetingLog.Trace

/-- `found.IsSpeechOf identity time` means that a record was read from the trace
which tells of something said at that time, and the name is the one that is
shown for the identity. -/
def Trace.Recovered.IsSpeechOf (found : Recovered) (identity : String)
    (time : Moment) : Prop :=
  ∃ told, found = ⟨time.wholeSecond, .transcript told⟩ ∧
    told.time = time.time.wholeSecond ∧
    told.participant = shownName identity

namespace Meeting

variable {meeting : Meeting} {recorder : Recorder} {identity text : String}

/-- What is noted while a meeting handles an event. -/
def entriesDuring (meeting : Meeting) (event : RoomEvent)
    (recorder : Recorder := Store.appendCore) : List Entry :=
  (meeting.handle event recorder).1.trace.drop meeting.trace.length

/-- What a meeting notes when somebody says something. -/
def speechEntries (meeting : Meeting) (identity text : String) : List Entry :=
  if meeting.isClosed then
    [⟨meeting.now, Note.debug ("Supervisor closed, dropping event for " ++
      identity)⟩]
  else
    match Transcript.ofUtterance? meeting.clock identity text with
    | none =>
        [⟨meeting.now, Note.debug ("Empty transcript for " ++ identity ++
          ", ignoring")⟩]
    | some transcript =>
        meeting.strangerEntries identity ++
          [⟨meeting.now, Note.info (spokenMessage transcript)⟩]

theorem append_trace (meeting : Meeting) (record : CoreRecord)
    (recorder : Recorder) :
    (meeting.append record recorder).1.trace = meeting.trace := by
  unfold Meeting.append
  simp only
  split <;> rfl

theorem hear_trace (meeting : Meeting) (identity text : String)
    (recorder : Recorder) :
    (meeting.hear identity text recorder).1.trace =
      meeting.trace ++
        match Transcript.ofUtterance? meeting.clock identity text with
        | none =>
            [⟨meeting.now, Note.debug ("Empty transcript for " ++ identity ++
              ", ignoring")⟩]
        | some transcript =>
            meeting.strangerEntries identity ++
              [⟨meeting.now, Note.info (spokenMessage transcript)⟩] := by
  unfold hear
  cases Transcript.ofUtterance? meeting.clock identity text with
  | none => rfl
  | some transcript =>
      simp only
      rw [append_trace, countSpeech_eq]
      exact List.append_assoc ..

theorem entriesDuring_utterance (meeting : Meeting) (identity text : String)
    (recorder : Recorder) :
    meeting.entriesDuring (.utterance identity text) recorder =
      meeting.speechEntries identity text := by
  unfold entriesDuring handle speechEntries
  split
  · exact List.drop_left
  · simp only [receive]
    rw [hear_trace]
    exact List.drop_left

/-- What can be noted of something said. -/
inductive IsSpeechNote (meeting : Meeting) (identity text : String) :
    Note → Prop where
  | dropped : IsSpeechNote meeting identity text
      (Note.debug ("Supervisor closed, dropping event for " ++ identity))
  | blank : IsSpeechNote meeting identity text
      (Note.debug ("Empty transcript for " ++ identity ++ ", ignoring"))
  | stranger : IsSpeechNote meeting identity text
      (Note.warning ("Transcript from untracked participant " ++ identity))
  | spoken (count : UInt64) : IsSpeechNote meeting identity text
      (Note.info
        (spokenMessage ⟨meeting.clock, identity, trim text, count⟩))

theorem isSpeechNote_of_mem {entry : Entry}
    (member : entry ∈ meeting.speechEntries identity text) :
    entry.time = meeting.now ∧
      meeting.IsSpeechNote identity text entry.note := by
  unfold speechEntries at member
  split at member
  · obtain rfl := List.mem_singleton.1 member
    exact ⟨rfl, .dropped⟩
  · rw [ofUtterance?_eq] at member
    by_cases blank : allBlank text = true
    · rw [if_pos blank] at member
      obtain rfl := List.mem_singleton.1 member
      exact ⟨rfl, .blank⟩
    · rw [if_neg blank] at member
      rcases List.mem_append.1 member with stranger | spoken
      · unfold strangerEntries at stranger
        split at stranger
        · obtain rfl := List.mem_singleton.1 stranger
          exact ⟨rfl, .stranger⟩
        · cases stranger
      · obtain rfl := List.mem_singleton.1 spoken
        exact ⟨rfl, .spoken _⟩

/-- Of something said there is one note of the level `info` at most. -/
theorem countP_speechEntries_le (meeting : Meeting) (identity text : String) :
    (meeting.speechEntries identity text).countP
      (fun entry => entry.note.level = .info) ≤ 1 := by
  unfold speechEntries
  split
  · exact Nat.zero_le 1
  · split
    · exact Nat.zero_le 1
    · unfold strangerEntries
      split
      · exact Nat.le_refl 1
      · exact Nat.le_refl 1

theorem isOneLine_spokenMessage {transcript : Transcript}
    (oneLine : IsOneLine transcript.participant)
    (oneLineToo : IsOneLine transcript.text) :
    IsOneLine (spokenMessage transcript) := by
  have opening : IsOneLine "[" := by decide
  have closing : IsOneLine "] " := by decide
  have colon : IsOneLine ": " := by decide
  have time := (isPlain_write transcript.time).isOneLine
  exact ((((opening.append time).append closing).append oneLine).append
    colon).append oneLineToo

theorem IsSpeechNote.isOneLine {note : Note}
    (isNote : meeting.IsSpeechNote identity text note)
    (oneLine : IsOneLine identity) (oneLineToo : IsOneLine (trim text)) :
    IsOneLine note.message := by
  cases isNote with
  | dropped =>
      have front : IsOneLine "Supervisor closed, dropping event for " := by
        decide
      exact front.append oneLine
  | blank =>
      have front : IsOneLine "Empty transcript for " := by decide
      have back : IsOneLine ", ignoring" := by decide
      exact (front.append oneLine).append back
  | stranger =>
      have front : IsOneLine "Transcript from untracked participant " := by
        decide
      exact front.append oneLine
  | spoken count => exact isOneLine_spokenMessage oneLine oneLineToo

/-- The first line of a note tells, if of anything, of the speech itself. -/
theorem IsSpeechNote.isSpeechOf {note : Note} {first : List Char}
    {found : Recovered} (isNote : meeting.IsSpeechNote identity text note)
    (level : note.level = .info)
    (cut : pieces (writeMessage note.message) =
      first :: laterLines note.message)
    (read : readMessage? meeting.now.wholeSecond (trimLineEnd first) =
      some found) :
    found.IsSpeechOf identity meeting.now := by
  cases isNote with
  | dropped | blank | stranger => cases level
  | spoken count =>
      obtain ⟨told, rfl, time, participant⟩ := readMessage?_first cut read
      refine ⟨told, rfl, time.trans ?_, participant⟩
      exact ClockTime.wholeSecond_eq (ClockTime.isWhole_wholeSecond _)

/-- A line that tells of a record is that of the speech itself, or stands behind
a line feed in what was noted. -/
theorem readLine?_speech {logger : String} {limit : Level} {line : String}
    {found : Recovered}
    (member : line ∈ writtenLines logger limit
      (meeting.speechEntries identity text))
    (read : readLine? logger line.toList = some found) :
    found.IsSpeechOf identity meeting.now ∨
      ∃ entry ∈ meeting.speechEntries identity text,
        line.toList ∈ laterLines entry.note.message := by
  rw [writtenLines, List.mem_flatMap] at member
  obtain ⟨entry, shown, inEntry⟩ := member
  obtain ⟨piece, inPieces, rfl⟩ := List.mem_map.1 inEntry
  rw [String.toList_ofList] at read ⊢
  have inEntries := (List.mem_filter.1 shown).1
  obtain ⟨time, isNote⟩ := isSpeechNote_of_mem inEntries
  rcases readLine?_piece inPieces read with later | ⟨level, first, cut, told⟩
  · exact .inr ⟨entry, inEntries, later⟩
  · rw [time] at told
    exact .inl (isNote.isSpeechOf level cut told)

/-- When neither the name nor the text has a line feed, what is noted while the
utterance is handled tells of one record at most, which is speech of the name
that is shown for the identity. That is the identity itself if and only if no
blank characters surround it and no character in it is a colon or written as an
escape. With line feeds all other records that are told of come from lines which
stand behind one, and by a logger with its name on one line every such line that
is shown is read for itself. -/
theorem speech_forges_only_behind_line_feeds (meeting : Meeting)
    (identity text logger : String) (limit : Level) (recorder : Recorder) :
    let entries := meeting.entriesDuring (.utterance identity text) recorder
    (IsOneLine identity → IsOneLine (trim text) →
      (readBack logger limit entries).length ≤ 1 ∧
        ∀ found ∈ readBack logger limit entries,
          found.IsSpeechOf identity meeting.now) ∧
    (shownName identity = identity ↔
      trim identity = identity ∧ ':' ∉ identity.toList ∧
        ∀ c ∈ identity.toList, writeLetter c = [c]) ∧
    (∀ line ∈ writtenLines logger limit entries, ∀ found,
      readLine? logger line.toList = some found →
        found.IsSpeechOf identity meeting.now ∨
          ∃ entry ∈ entries, line.toList ∈ laterLines entry.note.message) ∧
    (IsOneLine logger → ∀ entry ∈ entries,
      limit.allows entry.note.level = true →
        ∀ line ∈ laterLines entry.note.message, ∀ found,
          readLine? logger line = some found →
            found ∈ readBack logger limit entries) := by
  intro entries
  have same : entries = meeting.speechEntries identity text :=
    meeting.entriesDuring_utterance identity text recorder
  rw [same]
  refine ⟨?_, shownName_eq_self_iff identity, ?_, ?_⟩
  · intro oneLine oneLineToo
    have clear : ∀ entry ∈ meeting.speechEntries identity text,
        IsOneLine entry.note.message := fun entry member =>
      (isSpeechNote_of_mem member).2.isOneLine oneLine oneLineToo
    refine ⟨(length_readBack_le logger limit clear).trans
      (meeting.countP_speechEntries_le identity text), ?_⟩
    intro found member
    obtain ⟨line, inLines, read⟩ := List.mem_filterMap.1 member
    rcases readLine?_speech inLines read with speech | ⟨entry, among, later⟩
    · exact speech
    · rw [laterLines_of_isOneLine (clear entry among)] at later
      cases later
  · intro line member found read
    exact readLine?_speech member read
  · intro oneLine entry among allowed line later found read
    obtain ⟨first, -, lines⟩ :=
      pieces_lineLetters oneLine entry.time entry.note
    rw [readBack_eq]
    refine List.mem_flatMap.2
      ⟨entry, List.mem_filter.2 ⟨among, allowed⟩, ?_⟩
    rw [lines]
    exact List.mem_filterMap.2 ⟨line, List.mem_cons_of_mem _ later, read⟩

theorem plain_speech_is_read :
    let meeting :=
      small.start.1.performAll [.handle (.joined "ada" none)]
    let entries := meeting.entriesDuring (.utterance "ada" " Hello ")
    IsOneLine "ada" ∧ IsOneLine (trim " Hello ") ∧
      (readBack defaultLogger .info entries).length ≤ 1 ∧
      shownName "ada" = "ada" ∧
      readBack defaultLogger .info entries =
        [⟨Date.epoch.atTime .midnight,
          .transcript ⟨.midnight, "ada", "Hello", 1⟩⟩] := by
  intro meeting entries
  obtain ⟨clear, names, -, -⟩ := speech_forges_only_behind_line_feeds meeting
    "ada" " Hello " defaultLogger .info Store.appendCore
  have oneLine : IsOneLine "ada" := by decide
  have oneLineToo : IsOneLine (trim " Hello ") := by decide +kernel
  have plain : IsPlain "ada" := by decide +kernel
  have shown : shownName "ada" = "ada" :=
    names.2 ⟨by decide +kernel, by decide, fun c member => (plain c member).2⟩
  exact ⟨oneLine, oneLineToo, (clear oneLine oneLineToo).1, shown,
    by decide +kernel⟩

/-- Speech that goes on in a second line, which imitates a note. -/
def forgingText : String :=
  "Hello\n1970-01-01 00:00:00,000 - protocol-agent - INFO - " ++
    "Participant disconnected: bob"

/-- Somebody who says this makes the trace tell that somebody else has left, and
a name with a colon is cut off there. -/
theorem forged_records_are_read :
    let meeting :=
      small.start.1.performAll [.handle (.joined "ada" none)]
    let now := Date.epoch.atTime .midnight
    readBack defaultLogger .info
        (meeting.entriesDuring (.utterance "ada" forgingText)) =
      [⟨now, .transcript ⟨.midnight, "ada", "Hello", 1⟩⟩,
        ⟨now, .lifecycle ⟨.midnight, "bob", .left⟩⟩] ∧
    readBack defaultLogger .info
        (meeting.entriesDuring (.utterance "bob: ada" "Hello")) =
      [⟨now, .transcript ⟨.midnight, "bob", "ada: Hello", 2⟩⟩] := by
  decide +kernel

end Meeting

end MeetingLog
