import MeetingLog.Proofs.Meeting.Log
import MeetingLog.Proofs.Meeting.Unwinding

/-!
# The log whatever is refused

An event may be told to a meeting that is being closed, and its store may have
been finalized while the meeting goes on, so that records are refused. Whether
they are taken or not, the store holds exactly the records that the meeting has
given it.
-/

namespace MeetingLog

open MeetingLog.Calendar
open MeetingLog.Files
open MeetingLog.Trace

namespace Store

variable {options : StoreOptions} {store : Store} {files : FileTree}
variable {records : List CoreRecord}

theorem Holds.isRecording (holds : Holds options store files records)
    (isOpen : store.isOpen = true) :
    IsRecording options store files records := by
  rcases holds with recording | ⟨ended, finalized⟩
  · exact recording
  · simp [Store.isOpen, finalized.phase_eq] at isOpen

/-- A store that refuses a record stays as it is. -/
theorem Holds.refuses (holds : Holds options store files records)
    {record : CoreRecord} {error : StoreError}
    (refused : (store.appendCore files record).result = .error error) :
    Holds options (store.appendCore files record).store
      (store.appendCore files record).files records := by
  rcases holds with recording | ⟨ended, finalized⟩
  · rw [(recording.appendCore record).1] at refused
    cases refused
  · have notOpen : store.phase ≠ .recording := by
      rw [finalized.phase_eq]
      decide
    rw [appendCore, if_neg notOpen]
    exact .inr ⟨ended, finalized⟩

/-- A store that is recording can be finalized, if nothing but its log is
wanted. -/
theorem IsRecording.finalize_ok
    (recording : IsRecording options store files records)
    (unwanted : options.statistics = false) (ended : Moment) :
    (store.finalize files ended).result = .ok () := by
  obtain ⟨_, written, -, -, -, finalized⟩ := recording.finalize_eq ended
  obtain ⟨rfl, -, -, -, -⟩ := recording
  have without : ¬ (store.ending ended).options.statistics = true := by
    simpa [Store.ending] using unwanted
  rw [finalized, writeStatistics, if_neg without]
  rfl

end Store

namespace Meeting

variable {storeOptions : StoreOptions} {meeting after : Meeting}

/-- `IsSound storeOptions meeting` means that everybody is tracked under their
own identity and that the store holds the records of the meeting. -/
structure IsSound (storeOptions : StoreOptions) (meeting : Meeting) : Prop where
  keyed : meeting.IsKeyed
  logged : meeting.IsLogged storeOptions

theorem Unwinds.isSound (unwinds : Unwinds meeting after)
    (sound : IsSound storeOptions meeting) : IsSound storeOptions after where
  keyed := unwinds.keyed sound.keyed
  logged := by
    unfold IsLogged
    rw [unwinds.store, unwinds.files, unwinds.records]
    exact sound.logged

namespace IsSound

/-- The meeting that is the first part of a result. -/
theorem of_eq {α : Type} {reached : Meeting × α} {result : α}
    (sound : IsSound storeOptions reached.1)
    (equality : reached = (after, result)) : IsSound storeOptions after := by
  rwa [equality] at sound

theorem note (sound : IsSound storeOptions meeting) (note : Note) :
    IsSound storeOptions (meeting.note note) :=
  (Unwinds.note meeting note).isSound sound

theorem handOver (sound : IsSound storeOptions meeting)
    (farewells : List Farewell) :
    IsSound storeOptions (meeting.handOver farewells) :=
  (Unwinds.handOver meeting farewells).isSound sound

theorem putParticipant (sound : IsSound storeOptions meeting)
    (participant : Participant) :
    IsSound storeOptions (meeting.putParticipant participant) :=
  ⟨sound.keyed.putParticipant participant, sound.logged⟩

theorem changeParticipant (sound : IsSound storeOptions meeting)
    (identity : String) {change : Participant → Participant}
    (same : ∀ participant,
      (change participant).identity = participant.identity) :
    IsSound storeOptions (meeting.changeParticipant identity change) :=
  ⟨sound.keyed.modify rfl same, sound.logged⟩

theorem requestOpenings (sound : IsSound storeOptions meeting)
    (identities : List String) :
    IsSound storeOptions (meeting.requestOpenings identities) := by
  rw [requestOpenings_eq]
  exact ⟨sound.keyed, sound.logged⟩

/-- Whether the store takes a record or not, it holds what it was given. -/
theorem append (sound : IsSound storeOptions meeting) (record : CoreRecord) :
    IsSound storeOptions (meeting.append record).1 := by
  unfold Meeting.append
  simp only
  split
  · next refused => exact ⟨sound.keyed, sound.logged.refuses refused⟩
  · next success =>
      exact ⟨sound.keyed, sound.logged.takes (Store.Takes.single success)⟩

/-! ## Events -/

theorem join (sound : IsSound storeOptions meeting) (identity : String)
    (name : Option String) :
    IsSound storeOptions (meeting.join identity name).1 := by
  unfold Meeting.join
  split
  · exact sound.note _
  · have recorded :=
      (sound.note (Note.info (connectedMessage identity))).append
        (.lifecycle ⟨meeting.clock, identity, .joined⟩)
    simp only
    split
    · next refused => exact recorded.of_eq refused
    · next taken =>
        exact ((recorded.of_eq taken).putParticipant _).requestOpenings
          [identity]

theorem leave (sound : IsSound storeOptions meeting) (identity : String) :
    IsSound storeOptions (meeting.leave identity).1 := by
  unfold Meeting.leave
  split
  · exact sound.note _
  · have without : IsSound storeOptions
        { meeting with
          participants := meeting.participants.erase identity } :=
      ⟨sound.keyed.erase rfl, sound.logged⟩
    have recorded :=
      (without.note (Note.info (disconnectedMessage identity))).append
        (.lifecycle ⟨meeting.clock, identity, .left⟩)
    simp only
    split
    · next refused => exact recorded.of_eq refused
    · next taken => exact (recorded.of_eq taken).handOver _

theorem resumeEach (sound : IsSound storeOptions meeting) (time : ClockTime)
    (identities : List String) :
    IsSound storeOptions (Meeting.resumeEach time meeting identities).1 := by
  induction identities generalizing meeting with
  | nil => exact sound
  | cons identity others inductionHypothesis =>
      unfold Meeting.resumeEach
      split
      · exact inductionHypothesis sound
      · next participant found =>
          split
          · have recorded :=
              (sound.putParticipant
                { participant.beginOpening with
                  lastSpeech := meeting.elapsed
                  presence := .active }).append
                (.lifecycle ⟨time, participant.identity, .resumed⟩)
            simp only
            split
            · next refused => exact recorded.of_eq refused
            · next taken =>
                have later := inductionHypothesis (recorded.of_eq taken)
                split
                · next refused => exact later.of_eq refused
                · next resumed => exact later.of_eq resumed
          · exact inductionHypothesis sound

theorem resume (sound : IsSound storeOptions meeting) :
    IsSound storeOptions meeting.resume.1 := by
  unfold Meeting.resume
  have lowered : IsSound storeOptions
      { meeting.note wakingNote with isPaused := false } :=
    ⟨sound.keyed, sound.logged⟩
  have resumed := lowered.resumeEach meeting.clock meeting.participants.keys
  simp only
  split
  · next refused => exact resumed.of_eq refused
  · next taken => exact (resumed.of_eq taken).requestOpenings _

theorem subscribeTrack (sound : IsSound storeOptions meeting)
    (identity : String) :
    IsSound storeOptions (meeting.subscribeTrack identity).1 := by
  unfold Meeting.subscribeTrack
  have noted := sound.note (trackNote identity)
  simp only
  split
  · exact noted.note _
  · split
    · split
      · exact noted.resume
      · have marked : IsSound storeOptions
            (((meeting.note (trackNote identity)).note
              (retryNote identity)).changeParticipant identity
                Participant.beginOpening) :=
          (noted.note _).changeParticipant identity fun _ => rfl
        exact marked.requestOpenings [identity]
    · exact noted

theorem countSpeech (sound : IsSound storeOptions meeting) (identity : String)
    (transcript : Transcript) :
    IsSound storeOptions (meeting.countSpeech identity transcript) := by
  unfold Meeting.countSpeech
  split
  · exact sound.note _
  · exact sound.changeParticipant identity fun _ => rfl

theorem hear (sound : IsSound storeOptions meeting) (identity text : String) :
    IsSound storeOptions (meeting.hear identity text).1 := by
  unfold Meeting.hear
  split
  · exact sound.note _
  · exact ((sound.countSpeech _ _).note _).append _

/-- Whatever event a meeting is told of, its store holds its records. -/
theorem receive (sound : IsSound storeOptions meeting) (event : RoomEvent) :
    IsSound storeOptions (meeting.receive event).1 := by
  cases event with
  | joined identity name => exact sound.join identity name
  | left identity => exact sound.leave identity
  | trackSubscribed identity => exact sound.subscribeTrack identity
  | utterance identity text => exact sound.hear identity text

theorem handle (sound : IsSound storeOptions meeting) (event : RoomEvent) :
    IsSound storeOptions (meeting.handle event).1 := by
  unfold Meeting.handle
  split
  · exact sound.note _
  · exact sound.receive event

/-! ## Pauses -/

theorem pauseEach (sound : IsSound storeOptions meeting) (time : ClockTime)
    (participants : List Participant) :
    IsSound storeOptions (Meeting.pauseEach time meeting participants).1 := by
  induction participants generalizing meeting with
  | nil => exact sound
  | cons participant others inductionHypothesis =>
      unfold Meeting.pauseEach
      have recorded :=
        ((sound.note (meeting.pausedNote participant)).putParticipant
          participant.fallSilent).append
            (.lifecycle ⟨time, participant.identity, .paused⟩)
      simp only
      split
      · next refused => exact recorded.of_eq refused
      · next taken =>
          have later := inductionHypothesis (recorded.of_eq taken)
          split
          · next refused => exact later.of_eq refused
          · next paused => exact later.of_eq paused

theorem pause (sound : IsSound storeOptions meeting) (timeout : Nat) :
    IsSound storeOptions (meeting.pause timeout).1 := by
  unfold Meeting.pause
  have paused :=
    (sound.note (pauseNote timeout)).pauseEach meeting.clock meeting.listeners
  simp only
  split
  · next refused => exact paused.of_eq refused
  · next reached farewells taken =>
      have raised : IsSound storeOptions { reached with isPaused := true } :=
        ⟨(paused.of_eq taken).keyed, (paused.of_eq taken).logged⟩
      exact raised.handOver farewells

theorem checkIdle (sound : IsSound storeOptions meeting) :
    IsSound storeOptions meeting.checkIdle.1 := by
  unfold Meeting.checkIdle
  split
  · exact sound
  · split
    · exact sound.pause _
    · exact sound

/-! ## The end -/

theorem collectSessions (sound : IsSound storeOptions meeting) :
    IsSound storeOptions meeting.collectSessions.1 := by
  have released : IsSound storeOptions
      { meeting with
        participants :=
          meeting.participants.map fun _ participant => participant.release
        isCollected := true } :=
    ⟨sound.keyed.map rfl Participant.identity_release, sound.logged⟩
  exact released.handOver _

theorem finalizeStore (sound : IsSound storeOptions meeting) (ended : Moment) :
    IsSound storeOptions (meeting.finalizeStore ended).1 := by
  unfold Meeting.finalizeStore
  simp only [withStore_eq]
  exact ⟨sound.keyed, sound.logged.finalize ended⟩

theorem finish (sound : IsSound storeOptions meeting) (failures : Nat) :
    IsSound storeOptions (meeting.finish failures).1 := by
  rw [finish_eq]
  exact ⟨sound.keyed, sound.logged.finalize _⟩

end IsSound

/-- A meeting finishes with success if its store can be finalized. -/
theorem finish_ok (failures : Nat)
    (success : (meeting.store.finalize meeting.files
      meeting.now.wholeSecond).result = .ok ()) :
    (meeting.finish failures).2 = .ok () := by
  unfold finish finalizeStore
  simp only [noteAll_eq]
  split
  · next failed =>
      have refused := (Prod.mk.inj failed).2
      cases refused.symm.trans success
  · rfl

theorem start_isSound {options : MeetingOptions} {files : FileTree}
    {began : Moment} {begun : Meeting}
    (started :
      (Meeting.new options storeOptions files began).start =
        (begun, .ok ())) :
    IsSound storeOptions begun :=
  ⟨start_isKeyed started, start_isLogged started⟩

end Meeting

end MeetingLog
