import MeetingLog.Proofs.Meeting.Runs

/-!
# Refused records

A store on a medium that fails may refuse any of the records that a move gives
it. The move then breaks off. What it leaves behind is listed here once, for
every move and for every record that can be refused, just as `Effect` lists
what a move does when all its records are taken.
-/

namespace MeetingLog.Meeting

open MeetingLog.Calendar
open MeetingLog.Files
open MeetingLog.Trace

variable {recorder : Recorder}

theorem append_error {meeting after : Meeting} {record : CoreRecord}
    {error : StoreError}
    (refused : meeting.append record recorder = (after, .error error)) :
    ∃ store files,
      after = { meeting with store := store, files := files } := by
  unfold append at refused
  simp only at refused
  split at refused
  · obtain ⟨rfl, -⟩ := Prod.mk.inj refused
    exact ⟨_, _, rfl⟩
  · simp at refused

theorem lacking_cons_of_absent {meeting : Meeting} {identity : String}
    (absent : meeting.participants.get? identity = none)
    (others : List String) :
    meeting.lacking (identity :: others) = meeting.lacking others := by
  simp [lacking, absent]

theorem lacking_cons_of_lacks {meeting : Meeting} {identity : String}
    {participant : Participant}
    (found : meeting.participants.get? identity = some participant)
    (lacks : participant.lacksSession = true) (others : List String) :
    meeting.lacking (identity :: others) =
      identity :: meeting.lacking others := by
  simp [lacking, found, lacks]

theorem lacking_cons_of_served {meeting : Meeting} {identity : String}
    {participant : Participant}
    (found : meeting.participants.get? identity = some participant)
    (served : ¬ participant.lacksSession = true) (others : List String) :
    meeting.lacking (identity :: others) = meeting.lacking others := by
  simp [lacking, found, served]

theorem lacking_subset (meeting : Meeting) (identities : List String) :
    meeting.lacking identities ⊆ identities :=
  List.filter_sublist.subset

/-- If a record is refused while a group wakes up, those before it have been
recorded. One more has got the mark of a session being opened. -/
theorem resumeEach_error {time : ClockTime} {identities : List String} :
    ∀ {meeting after : Meeting} {error : StoreError},
      meeting.IsKeyed →
      identities.Nodup →
      resumeEach time meeting identities recorder =
        (after, .error error) →
      ∃ count store files,
        count < (meeting.lacking identities).length ∧
        after =
          { meeting with
            store := store
            files := files
            participants :=
              changedAmong meeting.participants
                ((meeting.lacking identities).take (count + 1))
                (Participant.wake meeting.elapsed)
            records :=
              meeting.records ++
                ((meeting.lacking identities).take count).map
                  (resumedRecord time) } := by
  induction identities with
  | nil =>
      intro meeting after error _ _ result
      simp [resumeEach] at result
  | cons identity others inductionHypothesis =>
      intro meeting after error keyed distinct result
      obtain ⟨notLater, othersDistinct⟩ := List.nodup_cons.1 distinct
      rw [resumeEach] at result
      cases found : meeting.participants.get? identity with
      | none =>
          simp only [participant?, found] at result
          rw [lacking_cons_of_absent found]
          exact inductionHypothesis keyed othersDistinct result
      | some participant =>
          simp only [participant?, found] at result
          by_cases lacks : participant.lacksSession = true
          · have same : participant.identity = identity :=
              keyed identity participant found
            have awake :
                participant.wake meeting.elapsed =
                  { participant.beginOpening with
                    lastSpeech := meeting.elapsed
                    presence := .active } :=
              if_pos lacks
            have notTaken (count : Nat) :
                identity ∉ (meeting.lacking others).take count := by
              intro member
              apply notLater
              exact meeting.lacking_subset others (List.mem_of_mem_take member)
            rw [lacking_cons_of_lacks found lacks]
            rw [if_pos lacks, ← awake] at result
            split at result
            · next recorded refusal refused =>
                obtain ⟨rfl, -⟩ := Prod.mk.inj result
                obtain ⟨store, files, rfl⟩ := append_error refused
                refine ⟨0, store, files, by simp, ?_⟩
                rw [List.take_succ_cons,
                  changedAmong_cons_of_found found _ (notTaken 0)]
                simp [putParticipant, same]
            · next recorded taken =>
                obtain ⟨store, files, -, rfl⟩ :=
                  append_putParticipant_ok taken
                split at result
                · next reached refusal later =>
                    obtain ⟨rfl, -⟩ := Prod.mk.inj result
                    have elsewhere :
                        (participant.wake meeting.elapsed).identity ∉
                          others := by
                      rwa [Participant.identity_wake, same]
                    obtain ⟨count, laterStore, laterFiles, fewer, rfl⟩ :=
                      inductionHypothesis
                        (by exact keyed.putParticipant _)
                        othersDistinct later
                    -- Whether the others lack a session is not changed by
                    -- the first one waking up.
                    have unchanged :
                        Meeting.lacking
                          { meeting with
                            store := store
                            files := files
                            participants :=
                              meeting.participants.insert
                                (participant.wake meeting.elapsed).identity
                                (participant.wake meeting.elapsed)
                            records :=
                              meeting.records ++
                                [.lifecycle ⟨time, participant.identity,
                                  .resumed⟩] } others =
                          meeting.lacking others :=
                      lacking_insert meeting elsewhere
                    rw [unchanged] at fewer
                    refine ⟨count + 1, laterStore, laterFiles, ?_, ?_⟩
                    · simpa using fewer
                    · rw [unchanged, List.take_succ_cons,
                        List.take_succ_cons,
                        changedAmong_cons_of_found found _ (notTaken _)]
                      simp [same, resumedRecord]
                · simp at result
          · rw [if_neg lacks] at result
            rw [lacking_cons_of_served found lacks]
            exact inductionHypothesis keyed othersDistinct result

theorem resume_error {meeting after : Meeting} {error : StoreError}
    (keyed : meeting.IsKeyed)
    (result : meeting.resume recorder = (after, .error error)) :
    ∃ count store files,
      count < (meeting.lacking meeting.participants.keys).length ∧
      after =
        { meeting with
          store := store
          files := files
          participants :=
            changedAmong meeting.participants
              ((meeting.lacking meeting.participants.keys).take (count + 1))
              (Participant.wake meeting.elapsed)
          isPaused := false
          records :=
            meeting.records ++
              ((meeting.lacking meeting.participants.keys).take count).map
                (resumedRecord meeting.clock)
          trace :=
            meeting.trace ++ [Entry.mk meeting.now wakingNote] } := by
  unfold resume at result
  simp only at result
  split at result
  · next reached refusal woken =>
      obtain ⟨rfl, -⟩ := Prod.mk.inj result
      obtain ⟨count, store, files, fewer, rfl⟩ :=
        resumeEach_error (by exact keyed) (Table.keys_nodup _) woken
      exact ⟨count, store, files, fewer, rfl⟩
  · simp at result

/-- If a record is refused while a group is paused, those before it have been
recorded. One more has lost the session. -/
theorem pauseEach_error {time : ClockTime} {listeners : List Participant} :
    ∀ {meeting after : Meeting} {error : StoreError},
      (∀ participant ∈ listeners,
        meeting.participants.get? participant.identity =
          some participant) →
      (listeners.map (·.identity)).Nodup →
      pauseEach time meeting listeners recorder = (after, .error error) →
      ∃ count store files,
        count < listeners.length ∧
        after =
          { meeting with
            store := store
            files := files
            participants :=
              changedAmong meeting.participants
                ((listeners.take (count + 1)).map (·.identity))
                Participant.fallSilent
            records :=
              meeting.records ++
                (listeners.take count).map (pausedRecord time)
            trace :=
              meeting.trace ++
                (listeners.take (count + 1)).map fun participant =>
                  Entry.mk meeting.now (meeting.pausedNote participant) } := by
  induction listeners with
  | nil =>
      intro meeting after error _ _ result
      simp [pauseEach] at result
  | cons participant others inductionHypothesis =>
      intro meeting after error tracked distinct result
      obtain ⟨notLater, othersDistinct⟩ := List.nodup_cons.1 distinct
      have found := tracked participant List.mem_cons_self
      have notTaken (count : Nat) :
          participant.identity ∉
            (others.take count).map (·.identity) := by
        intro member
        apply notLater
        rw [List.map_take] at member
        exact List.mem_of_mem_take member
      rw [pauseEach] at result
      split at result
      · next recorded refusal refused =>
          obtain ⟨rfl, -⟩ := Prod.mk.inj result
          obtain ⟨store, files, rfl⟩ := append_error refused
          refine ⟨0, store, files, by simp, ?_⟩
          rw [List.take_succ_cons, List.map_cons,
            changedAmong_cons_of_found found _ (notTaken 0)]
          simp [putParticipant, note, pausedNote, silence,
            Participant.fallSilent, now]
      · next recorded taken =>
          obtain ⟨store, files, -, rfl⟩ := append_putParticipant_ok taken
          split at result
          · next reached refusal later =>
              obtain ⟨rfl, -⟩ := Prod.mk.inj result
              have othersTracked : ∀ other ∈ others,
                  (meeting.participants.insert participant.identity
                    participant.fallSilent).get? other.identity =
                      some other := by
                intro other member
                have different :
                    other.identity ≠ participant.identity := by
                  intro same
                  apply notLater
                  exact List.mem_map.2 ⟨other, member, same⟩
                rw [Table.get?_insert_of_ne _ different]
                exact tracked other (List.mem_cons_of_mem _ member)
              obtain ⟨count, laterStore, laterFiles, fewer, rfl⟩ :=
                inductionHypothesis (by exact othersTracked)
                  othersDistinct later
              refine ⟨count + 1, laterStore, laterFiles, ?_, ?_⟩
              · simpa using fewer
              · rw [List.take_succ_cons, List.take_succ_cons,
                  List.map_cons,
                  changedAmong_cons_of_found found _ (notTaken _)]
                simp [note, pausedRecord, pausedNote, silence,
                  Participant.fallSilent, now]
          · simp at result

/-! ## Refused moves -/

/-- `Refusal meeting move after` means that the move may turn the meeting into
`after` if the store refuses one of the records that the move gives it. -/
inductive Refusal (meeting : Meeting) : Move → Meeting → Prop
  | joining {move : Move} {identity : String} {name : Option String}
      {store : Store} {files : FileTree} :
      meeting.Hears move (.joined identity name) →
      meeting.participants.get? identity = none →
      Refusal meeting move
        { meeting with
          store := store
          files := files
          trace :=
            meeting.trace ++
              [⟨meeting.now, Note.info (connectedMessage identity)⟩] }
  | leaving {move : Move} {identity : String} {participant : Participant}
      {store : Store} {files : FileTree} :
      meeting.Hears move (.left identity) →
      meeting.participants.get? identity = some participant →
      Refusal meeting move
        { meeting with
          store := store
          files := files
          participants := meeting.participants.erase identity
          trace :=
            meeting.trace ++
              [⟨meeting.now, Note.info (disconnectedMessage identity)⟩] }
  /-- Some participants have woken up, the last of them without a record. -/
  | waking {move : Move} {identity : String} {participant : Participant}
      {count : Nat} {store : Store} {files : FileTree} :
      meeting.Hears move (.trackSubscribed identity) →
      meeting.participants.get? identity = some participant →
      participant.lacksSession = true →
      meeting.isPaused = true →
      count < (meeting.lacking meeting.participants.keys).length →
      Refusal meeting move
        { meeting with
          store := store
          files := files
          participants :=
            changedAmong meeting.participants
              ((meeting.lacking meeting.participants.keys).take (count + 1))
              (Participant.wake meeting.elapsed)
          isPaused := false
          records :=
            meeting.records ++
              ((meeting.lacking meeting.participants.keys).take count).map
                (resumedRecord meeting.clock)
          trace :=
            meeting.trace ++ [Entry.mk meeting.now (trackNote identity)] ++
              [Entry.mk meeting.now wakingNote] }
  | speaking {move : Move} {identity spoken : String}
      {transcript : Transcript} {store : Store} {files : FileTree} :
      meeting.Hears move (.utterance identity spoken) →
      Transcript.ofUtterance? meeting.clock identity spoken =
        some transcript →
      Refusal meeting move
        { meeting with
          store := store
          files := files
          participants :=
            meeting.participants.modify identity
              (Participant.speak transcript meeting.elapsed)
          trace :=
            meeting.trace ++ meeting.strangerEntries identity ++
              [⟨meeting.now, Note.info (spokenMessage transcript)⟩] }
  /-- Some participants have lost their sessions, the last of them without a
  record. -/
  | pausing {move : Move} {timeout count : Nat} {store : Store}
      {files : FileTree} {trace failure : List Entry} :
      move = .checkIdle ∨ move = .checkRegularly →
      meeting.options.idleTimeout = some timeout →
      meeting.isSilent timeout = true →
      count < meeting.listeners.length →
      trace =
        meeting.trace ++ [⟨meeting.now, pauseNote timeout⟩] ++
          ((meeting.listeners.take (count + 1)).map fun participant =>
            ⟨meeting.now, meeting.pausedNote participant⟩) ++ failure →
      Refusal meeting move
        { meeting with
          store := store
          files := files
          participants :=
            changedAmong meeting.participants
              ((meeting.listeners.take (count + 1)).map (·.identity))
              Participant.fallSilent
          records :=
            meeting.records ++
              (meeting.listeners.take count).map (pausedRecord meeting.clock)
          trace := trace }

variable {meeting : Meeting}

theorem join_refusal {move : Move} {identity : String} {name : Option String}
    (hears : meeting.Hears move (.joined identity name))
    (refused : (meeting.join identity name recorder).2.isOk = false) :
    Refusal meeting move (meeting.join identity name recorder).1 := by
  unfold join at refused ⊢
  split
  · next present =>
      rw [if_pos present] at refused
      simp [Except.isOk, Except.toBool] at refused
  · next absent =>
      rw [if_neg absent] at refused
      simp only at refused ⊢
      have missing : meeting.participants.get? identity = none := by
        simpa [Table.contains] using absent
      split at refused
      · next recorded error result =>
          obtain ⟨store, files, rfl⟩ := append_error result
          exact .joining hears missing
      · simp [Except.isOk, Except.toBool] at refused

theorem leave_refusal {move : Move} {identity : String}
    (hears : meeting.Hears move (.left identity))
    (refused : (meeting.leave identity recorder).2.isOk = false) :
    Refusal meeting move (meeting.leave identity recorder).1 := by
  unfold leave at refused ⊢
  cases found : meeting.participants.get? identity with
  | none =>
      simp [participant?, found, Except.isOk, Except.toBool] at refused
  | some participant =>
      simp only [participant?, found] at refused ⊢
      split at refused
      · next recorded error result =>
          obtain ⟨store, files, rfl⟩ := append_error result
          exact .leaving hears found
      · simp [Except.isOk, Except.toBool] at refused

theorem hear_refusal {move : Move} {identity text : String}
    (hears : meeting.Hears move (.utterance identity text))
    (refused : (meeting.hear identity text recorder).2.isOk = false) :
    Refusal meeting move (meeting.hear identity text recorder).1 := by
  unfold hear at refused ⊢
  cases said : Transcript.ofUtterance? meeting.clock identity text with
  | none => simp [said, Except.isOk, Except.toBool] at refused
  | some transcript =>
      simp only [said, countSpeech_eq] at refused ⊢
      generalize result : Meeting.append _ _ recorder = reached
        at refused ⊢
      obtain ⟨recorded, error | success⟩ := reached
      · obtain ⟨store, files, rfl⟩ := append_error result
        exact .speaking hears said
      · simp [Except.isOk, Except.toBool] at refused

theorem subscribeTrack_refusal (keyed : meeting.IsKeyed) {move : Move}
    {identity : String} (hears : meeting.Hears move (.trackSubscribed identity))
    (refused : (meeting.subscribeTrack identity recorder).2.isOk = false) :
    Refusal meeting move
      (meeting.subscribeTrack identity recorder).1 := by
  unfold subscribeTrack at refused ⊢
  cases found : meeting.participants.get? identity with
  | none =>
      simp [participant?, note, found, Except.isOk, Except.toBool]
        at refused
  | some participant =>
      have present :
          (meeting.note (trackNote identity)).participant? identity =
            some participant :=
        found
      simp only [trackNote] at present
      simp only [present] at refused ⊢
      by_cases lacks : participant.lacksSession = true
      · rw [if_pos lacks] at refused ⊢
        by_cases isPaused : meeting.isPaused = true
        · have stillPaused :
              (meeting.note (trackNote identity)).isPaused = true :=
            isPaused
          simp only [trackNote] at stillPaused
          rw [if_pos stillPaused] at refused ⊢
          generalize result : Meeting.resume _ recorder = reached
            at refused ⊢
          obtain ⟨recorded, error | success⟩ := reached
          · obtain ⟨count, store, files, fewer, rfl⟩ :=
              resume_error (by exact keyed) result
            exact .waking hears found lacks isPaused fewer
          · simp [Except.isOk, Except.toBool] at refused
        · have stillActive :
              ¬ (meeting.note (trackNote identity)).isPaused = true :=
            isPaused
          simp only [trackNote] at stillActive
          rw [if_neg stillActive] at refused
          simp [Except.isOk, Except.toBool] at refused
      · rw [if_neg lacks] at refused
        simp [Except.isOk, Except.toBool] at refused

theorem receive_refusal (keyed : meeting.IsKeyed) {move : Move}
    {event : RoomEvent} (hears : meeting.Hears move event)
    (refused : (meeting.receive event recorder).2.isOk = false) :
    Refusal meeting move (meeting.receive event recorder).1 := by
  cases event with
  | joined identity name =>
      simp only [receive, isOk_map] at refused ⊢
      exact join_refusal hears refused
  | left identity => exact leave_refusal hears refused
  | trackSubscribed identity =>
      simp only [receive, isOk_map] at refused ⊢
      exact subscribeTrack_refusal keyed hears refused
  | utterance identity text =>
      simp only [receive, isOk_map] at refused ⊢
      exact hear_refusal hears refused

theorem handle_refusal (keyed : meeting.IsKeyed) {event : RoomEvent}
    (refused : (meeting.handle event recorder).2.isOk = false) :
    Refusal meeting (.handle event) (meeting.handle event recorder).1 := by
  unfold handle at refused ⊢
  by_cases isClosed : meeting.isClosed = true
  · rw [if_pos isClosed] at refused
    simp [Except.isOk, Except.toBool] at refused
  · rw [if_neg isClosed] at refused ⊢
    exact receive_refusal keyed (.inr ⟨rfl, by simpa using isClosed⟩) refused

theorem pause_error {after : Meeting} {timeout : Nat} {error : StoreError}
    (keyed : meeting.IsKeyed)
    (result : meeting.pause timeout recorder = (after, .error error)) :
    ∃ count store files,
      count < meeting.listeners.length ∧
      after =
        { meeting with
          store := store
          files := files
          participants :=
            changedAmong meeting.participants
              ((meeting.listeners.take (count + 1)).map (·.identity))
              Participant.fallSilent
          records :=
            meeting.records ++
              (meeting.listeners.take count).map (pausedRecord meeting.clock)
          trace :=
            meeting.trace ++ [⟨meeting.now, pauseNote timeout⟩] ++
              (meeting.listeners.take (count + 1)).map fun participant =>
                Entry.mk meeting.now (meeting.pausedNote participant) } := by
  unfold pause at result
  simp only at result
  split at result
  · next reached refusal silenced =>
      obtain ⟨rfl, -⟩ := Prod.mk.inj result
      have tracked : ∀ participant ∈ meeting.listeners,
          meeting.participants.get? participant.identity =
            some participant := by
        intro participant member
        exact ((mem_listeners_iff keyed participant).1 member).1
      obtain ⟨count, store, files, fewer, rfl⟩ :=
        pauseEach_error (by exact tracked)
          (by exact listeners_identity_nodup keyed) silenced
      exact ⟨count, store, files, fewer, rfl⟩
  · simp at result

/-- A check that fails has tried to pause the group. -/
theorem checkIdle_error {after : Meeting} {error : StoreError}
    (result : meeting.checkIdle recorder = (after, .error error)) :
    ∃ timeout, meeting.options.idleTimeout = some timeout ∧
      meeting.isSilent timeout = true ∧
      meeting.pause timeout recorder = (after, .error error) := by
  cases limit : meeting.options.idleTimeout with
  | none => simp [checkIdle, limit] at result
  | some timeout =>
      by_cases silent : meeting.isSilent timeout = true
      · refine ⟨timeout, rfl, silent, ?_⟩
        rw [checkIdle_of_isSilent limit silent recorder] at result
        generalize meeting.pause timeout recorder = reached at result ⊢
        obtain ⟨recorded, error | farewells⟩ := reached
        · obtain ⟨rfl, same⟩ := Prod.mk.inj result
          rw [Except.error.inj same]
        · simp [Except.map] at result
      · rw [checkIdle_of_not_isSilent limit (by simpa using silent)
          recorder] at result
        simp at result

/-- A move whose records are not all taken has one of the effects of a refused
move. -/
theorem perform_refusal (keyed : meeting.IsKeyed) {move : Move}
    (refused : meeting.takes move recorder = false) :
    Refusal meeting move (meeting.perform move recorder) := by
  cases move with
  | handle event => exact handle_refusal keyed refused
  | tell event => exact receive_refusal keyed (.inl rfl) refused
  | checkIdle =>
      simp only [takes] at refused
      simp only [perform]
      generalize result : meeting.checkIdle recorder = reached
        at refused ⊢
      obtain ⟨recorded, error | farewells⟩ := reached
      · obtain ⟨timeout, limit, silent, paused⟩ := checkIdle_error result
        obtain ⟨count, store, files, fewer, rfl⟩ := pause_error keyed paused
        exact .pausing (.inl rfl) limit silent fewer
          (List.append_nil _).symm
      · simp [Except.isOk, Except.toBool] at refused
  | checkRegularly =>
      simp only [takes] at refused
      simp only [perform]
      generalize result : meeting.checkIdle recorder = reached
        at refused ⊢
      obtain ⟨recorded, error | farewells⟩ := reached
      · obtain ⟨timeout, limit, silent, paused⟩ := checkIdle_error result
        obtain ⟨count, store, files, fewer, rfl⟩ := pause_error keyed paused
        exact .pausing (.inr rfl) limit silent fewer rfl
      · simp [Except.isOk, Except.toBool] at refused
  | _ => simp [takes] at refused

end MeetingLog.Meeting
