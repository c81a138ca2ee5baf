import MeetingLog.Meeting.Moves
import MeetingLog.Proofs.Store.Taking
import MeetingLog.Proofs.Table

/-!
# What happens to a whole group

A pause and its end go through the participants one after another. When the
store takes every record on the way, the result is that all participants have
changed at once: those without a session wake up, and those with one fall
silent.
-/

namespace MeetingLog

open MeetingLog.Calendar
open MeetingLog.Trace

namespace Participant

/-- The participant after the end of a pause. Who lacks a session wakes up and
gets the mark of a session being opened. -/
def wake (elapsed : Nat) (participant : Participant) : Participant :=
  if participant.lacksSession then
    { participant.beginOpening with
      lastSpeech := elapsed
      presence := .active }
  else participant

/-- The participant without a session, paused. -/
def fallSilent (participant : Participant) : Participant :=
  { participant with presence := .idle, session := none }

/-- The participant without a session, at the end. -/
def release (participant : Participant) : Participant :=
  { participant with session := none }

/-- The participant after a pause of the group. Who has a session falls
silent. -/
def hush (participant : Participant) : Participant :=
  if participant.session.isSome then participant.fallSilent else participant

@[simp]
theorem identity_hush (participant : Participant) :
    participant.hush.identity = participant.identity := by
  unfold hush
  split <;> rfl

@[simp]
theorem session_hush (participant : Participant) :
    participant.hush.session = none := by
  unfold hush
  split
  · rfl
  · next absent => simpa using absent

@[simp]
theorem identity_wake (elapsed : Nat) (participant : Participant) :
    (participant.wake elapsed).identity = participant.identity := by
  unfold wake
  split <;> rfl

@[simp]
theorem identity_release (participant : Participant) :
    participant.release.identity = participant.identity :=
  rfl

@[simp]
theorem session_release (participant : Participant) :
    participant.release.session = none :=
  rfl

@[simp]
theorem session_wake (elapsed : Nat) (participant : Participant) :
    (participant.wake elapsed).session = participant.session := by
  unfold wake
  split <;> rfl

end Participant

namespace Meeting

/-- `IsKeyed meeting` means that every participant is found under their own
identity. -/
def IsKeyed (meeting : Meeting) : Prop :=
  ∀ identity participant,
    meeting.participants.get? identity = some participant →
      participant.identity = identity

variable {recorder : Recorder}

theorem append_ok {meeting after : Meeting} {record : CoreRecord}
    (taken : meeting.append record recorder = (after, .ok ())) :
    ∃ store files,
      Store.Accepts recorder meeting.store meeting.files [record] store files ∧
      after =
        { meeting with
          store := store
          files := files
          records := meeting.records ++ [record] } := by
  unfold append at taken
  simp only at taken
  split at taken
  · simp at taken
  · next result =>
      obtain ⟨rfl, -⟩ := Prod.mk.inj taken
      exact ⟨_, _, Store.Accepts.single result, rfl⟩

def pausedRecord (time : ClockTime) (participant : Participant) :
    CoreRecord :=
  .lifecycle ⟨time, participant.identity, .paused⟩

/-- The record that a participant woke up. -/
def resumedRecord (time : ClockTime) (identity : String) : CoreRecord :=
  .lifecycle ⟨time, identity, .resumed⟩

/-- The identities, among some, of participants who lack a session. -/
def lacking (meeting : Meeting) (identities : List String) : List String :=
  identities.filter fun identity =>
    (meeting.participants.get? identity).any Participant.lacksSession

def changedAmong (participants : Table String Participant)
    (identities : List String) (change : Participant → Participant) :
    Table String Participant :=
  participants.map fun identity participant =>
    if identity ∈ identities then change participant else participant

@[simp]
theorem changedAmong_nil (participants : Table String Participant)
    (change : Participant → Participant) :
    changedAmong participants [] change = participants := by
  refine Table.ext_get? fun key => ?_
  simp [changedAmong, Table.get?_map]

theorem changedAmong_cons_of_absent {participants : Table String Participant}
    {identity : String} (absent : participants.get? identity = none)
    (others : List String) (change : Participant → Participant) :
    changedAmong participants (identity :: others) change =
      changedAmong participants others change := by
  refine Table.ext_get? fun key => ?_
  simp only [changedAmong, Table.get?_map]
  by_cases same : key = identity
  · subst same
    simp [absent]
  · simp [same]

theorem changedAmong_cons_of_fixed {participants : Table String Participant}
    {identity : String} {participant : Participant}
    (found : participants.get? identity = some participant)
    {change : Participant → Participant}
    (fixed : change participant = participant) (others : List String) :
    changedAmong participants (identity :: others) change =
      changedAmong participants others change := by
  refine Table.ext_get? fun key => ?_
  simp only [changedAmong, Table.get?_map]
  by_cases same : key = identity
  · subst same
    simp [found, fixed]
  · simp [same]

theorem changedAmong_cons_of_found {participants : Table String Participant}
    {identity : String} {participant : Participant}
    (found : participants.get? identity = some participant)
    (change : Participant → Participant) {others : List String}
    (notLater : identity ∉ others) :
    changedAmong participants (identity :: others) change =
      changedAmong (participants.insert identity (change participant))
        others change := by
  refine Table.ext_get? fun key => ?_
  simp only [changedAmong, Table.get?_map, Table.get?_insert]
  by_cases same : key = identity
  · subst same
    simp [found, notLater]
  · simp [same]

/-- Nothing changes for participants with other identities when one is put
in. -/
theorem lacking_insert (meeting : Meeting) {participant : Participant}
    {identities : List String}
    (elsewhere : participant.identity ∉ identities) :
    (meeting.putParticipant participant).lacking identities =
      meeting.lacking identities := by
  refine List.filter_congr fun identity member => ?_
  have different : identity ≠ participant.identity := by
    rintro rfl
    exact elsewhere member
  rw [putParticipant, Table.get?_insert_of_ne _ different]

theorem IsKeyed.putParticipant {meeting : Meeting} (keyed : meeting.IsKeyed)
    (participant : Participant) :
    (meeting.putParticipant participant).IsKeyed :=
  Table.Holds.insert keyed rfl fun _ _ _ kept => kept

theorem append_putParticipant_ok {meeting after : Meeting}
    {participant : Participant} {record : CoreRecord}
    (taken :
      (meeting.putParticipant participant).append record recorder =
        (after, .ok ())) :
    ∃ store files,
      Store.Accepts recorder meeting.store meeting.files [record] store files ∧
      after =
        { meeting with
          store := store
          files := files
          participants :=
            meeting.participants.insert participant.identity participant
          records := meeting.records ++ [record] } :=
  append_ok taken

theorem resumeEach_ok {time : ClockTime} {identities : List String} :
    ∀ {meeting after : Meeting} {resumed : List String},
      meeting.IsKeyed →
      identities.Nodup →
      resumeEach time meeting identities recorder = (after, .ok resumed) →
      resumed = meeting.lacking identities ∧
      ∃ store files,
        Store.Accepts recorder meeting.store meeting.files
          (resumed.map (resumedRecord time)) store files ∧
        after =
          { meeting with
            store := store
            files := files
            participants :=
              changedAmong meeting.participants identities
                (Participant.wake meeting.elapsed)
            records :=
              meeting.records ++ resumed.map (resumedRecord time) } := by
  induction identities with
  | nil =>
      intro meeting after resumed keyed _ result
      obtain ⟨rfl, equality⟩ := Prod.mk.inj result
      obtain rfl := Except.ok.inj equality
      refine ⟨rfl, _, _, .nothing _ _, ?_⟩
      simp
  | cons identity others inductionHypothesis =>
      intro meeting after resumed keyed distinct result
      obtain ⟨notLater, othersDistinct⟩ := List.nodup_cons.1 distinct
      rw [resumeEach] at result
      cases found : meeting.participants.get? identity with
      | none =>
          simp only [participant?, found] at result
          obtain ⟨equality, rest⟩ :=
            inductionHypothesis keyed othersDistinct result
          refine ⟨?_, ?_⟩
          · simpa [lacking, found] using equality
          · rwa [changedAmong_cons_of_absent found]
      | some participant =>
          simp only [participant?, found] at result
          by_cases lacks : participant.lacksSession = true
          · have same : participant.identity = identity :=
              keyed identity participant found
            have awake :
                participant.wake meeting.elapsed =
                  { participant.beginOpening with
                    lastSpeech := meeting.elapsed
                    presence := .active } :=
              if_pos lacks
            rw [if_pos lacks, ← awake] at result
            split at result
            · simp at result
            · next recorded taken =>
                obtain ⟨store, files, takes, rfl⟩ :=
                  append_putParticipant_ok taken
                split at result
                · simp at result
                · next reached awakened later =>
                    obtain ⟨rfl, equality⟩ := Prod.mk.inj result
                    obtain rfl := Except.ok.inj equality
                    have elsewhere :
                        (participant.wake meeting.elapsed).identity ∉
                          others := by
                      rwa [Participant.identity_wake, same]
                    obtain ⟨awakenedEquality, laterStore, laterFiles,
                        laterTakes, rfl⟩ :=
                      inductionHypothesis
                        (by exact keyed.putParticipant _)
                        othersDistinct later
                    have unchanged :=
                      (awakenedEquality.trans
                        (lacking_insert meeting elsewhere))
                    refine ⟨?_, laterStore, laterFiles, ?_, ?_⟩
                    · simpa [lacking, found, lacks, same] using unchanged
                    · exact takes.append laterTakes
                    · rw [changedAmong_cons_of_found found _ notLater]
                      simp [same, resumedRecord]
          · rw [if_neg lacks] at result
            obtain ⟨equality, rest⟩ :=
              inductionHypothesis keyed othersDistinct result
            have fixed :
                participant.wake meeting.elapsed = participant := by
              rw [Participant.wake, if_neg lacks]
            refine ⟨?_, ?_⟩
            · simpa [lacking, found, lacks] using equality
            · rwa [changedAmong_cons_of_fixed found fixed]

theorem changedAmong_keys (participants : Table String Participant)
    (change : Participant → Participant) :
    changedAmong participants participants.keys change =
      participants.map fun _ participant => change participant := by
  refine Table.ext_get? fun key => ?_
  simp only [changedAmong, Table.get?_map]
  cases found : participants.get? key with
  | none => rfl
  | some participant =>
      have present : key ∈ participants.keys := by
        rw [Table.mem_keys, Table.contains, found]
        rfl
      simp [present]

/-- The end of a pause wakes everybody who lacks a session, and asks for as
many openings. -/
theorem resume_ok {meeting after : Meeting} (keyed : meeting.IsKeyed)
    (result : meeting.resume recorder = (after, .ok ())) :
    ∃ store files,
      Store.Accepts recorder meeting.store meeting.files
        ((meeting.lacking meeting.participants.keys).map
          (resumedRecord meeting.clock)) store files ∧
      after =
        { meeting with
          store := store
          files := files
          participants :=
            meeting.participants.map fun _ participant =>
              participant.wake meeting.elapsed
          isPaused := false
          records :=
            meeting.records ++
              (meeting.lacking meeting.participants.keys).map
                (resumedRecord meeting.clock)
          trace :=
            meeting.trace ++
              [Entry.mk meeting.now
                (Note.info
                  "Restarting transcription sessions after idle...")]
          }.requestOpenings
            (meeting.lacking meeting.participants.keys) := by
  unfold resume at result
  simp only at result
  split at result
  · simp at result
  · next reached resumed woken =>
      obtain ⟨rfl, -⟩ := Prod.mk.inj result
      obtain ⟨rfl, store, files, takes, rfl⟩ :=
        resumeEach_ok (by exact keyed) (Table.keys_nodup _) woken
      refine ⟨store, files, takes, ?_⟩
      rw [changedAmong_keys]
      rfl

/-! ## Pauses -/

theorem mem_values_iff {meeting : Meeting} (keyed : meeting.IsKeyed)
    (participant : Participant) :
    participant ∈ meeting.participants.values ↔
      meeting.participants.get? participant.identity =
        some participant := by
  simp only [Table.values, List.mem_map, Table.get?_eq_some_iff]
  constructor
  · rintro ⟨⟨identity, _⟩, member, rfl⟩
    rwa [keyed identity _ ((Table.get?_eq_some_iff _ _ _).2 member)]
  · intro member
    exact ⟨_, member, rfl⟩

theorem values_map_identity {meeting : Meeting} (keyed : meeting.IsKeyed) :
    meeting.participants.values.map (·.identity) =
      meeting.participants.keys := by
  rw [Table.values, Table.keys, List.map_map]
  refine List.map_congr_left fun entry member => ?_
  exact keyed entry.1 entry.2
    ((Table.get?_eq_some_iff _ _ _).2 (by exact member))

theorem mem_listeners_iff {meeting : Meeting} (keyed : meeting.IsKeyed)
    (participant : Participant) :
    participant ∈ meeting.listeners ↔
      meeting.participants.get? participant.identity = some participant ∧
        participant.session.isSome = true := by
  rw [listeners, List.mem_filter, mem_values_iff keyed]

theorem mem_listeners_identity {meeting : Meeting} (keyed : meeting.IsKeyed)
    {identity : String} :
    identity ∈ meeting.listeners.map Participant.identity ↔
      ∃ participant, meeting.participants.get? identity = some participant ∧
        participant.session.isSome = true := by
  rw [List.mem_map]
  constructor
  · rintro ⟨participant, member, rfl⟩
    exact ⟨participant, (mem_listeners_iff keyed participant).1 member⟩
  · rintro ⟨participant, found, listens⟩
    obtain rfl := keyed identity participant found
    exact
      ⟨participant, (mem_listeners_iff keyed participant).2 ⟨found, listens⟩,
        rfl⟩

theorem listeners_ascending {meeting : Meeting} (keyed : meeting.IsKeyed) :
    (meeting.listeners.map Participant.identity).Pairwise (· < ·) := by
  have ascending := meeting.participants.keys_ascending
  rw [← values_map_identity keyed] at ascending
  exact ascending.sublist (List.filter_sublist.map _)

theorem listeners_identity_nodup {meeting : Meeting}
    (keyed : meeting.IsKeyed) :
    (meeting.listeners.map Participant.identity).Nodup := by
  have distinct := meeting.participants.keys_nodup
  rw [← values_map_identity keyed] at distinct
  exact distinct.sublist (List.filter_sublist.map _)

theorem remainingSessions_eq (meeting : Meeting) :
    meeting.remainingSessions =
      meeting.participants.values.flatMap farewellOf := by
  rw [remainingSessions, List.filterMap_eq_flatMap_toList]
  refine List.flatMap_congr fun participant _ => ?_
  rw [farewellOf]
  cases participant.session <;> rfl

theorem listeners_farewells (meeting : Meeting) :
    meeting.listeners.flatMap farewellOf = meeting.remainingSessions := by
  rw [remainingSessions_eq, listeners]
  induction meeting.participants.values with
  | nil => rfl
  | cons participant others inductionHypothesis =>
      rw [List.filter_cons]
      split
      · rw [List.flatMap_cons, List.flatMap_cons, inductionHypothesis]
      · next absent =>
          have none : participant.session = none := by
            simpa using absent
          rw [List.flatMap_cons, inductionHypothesis, farewellOf, none]
          rfl

theorem changedAmong_listeners {meeting : Meeting}
    (keyed : meeting.IsKeyed) :
    changedAmong meeting.participants
        (meeting.listeners.map (·.identity)) Participant.fallSilent =
      meeting.participants.map fun _ participant => participant.hush := by
  refine Table.ext_get? fun key => ?_
  simp only [changedAmong, Table.get?_map]
  cases found : meeting.participants.get? key with
  | none => rfl
  | some participant =>
      have listens :
          key ∈ meeting.listeners.map (·.identity) ↔
            participant.session.isSome = true := by
        rw [mem_listeners_identity keyed, found]
        simp
      simp only [Option.map_some, listens, Participant.hush]

def pausedNote (meeting : Meeting) (participant : Participant) : Note :=
  Note.info ("Closing session for " ++ participant.identity ++ " (idle " ++
    minutesText 1 (meeting.silence participant) ++ " min)")

theorem pauseEach_ok {time : ClockTime} {listeners : List Participant} :
    ∀ {meeting after : Meeting} {farewells : List Farewell},
      (∀ participant ∈ listeners,
        meeting.participants.get? participant.identity =
          some participant) →
      (listeners.map (·.identity)).Nodup →
      pauseEach time meeting listeners recorder = (after, .ok farewells) →
      farewells = listeners.flatMap farewellOf ∧
      ∃ store files,
        Store.Accepts recorder meeting.store meeting.files
          (listeners.map (pausedRecord time)) store files ∧
        after =
          { meeting with
            store := store
            files := files
            participants :=
              changedAmong meeting.participants
                (listeners.map (·.identity)) Participant.fallSilent
            records := meeting.records ++ listeners.map (pausedRecord time)
            trace :=
              meeting.trace ++ listeners.map fun participant =>
                Entry.mk meeting.now (meeting.pausedNote participant) } := by
  induction listeners with
  | nil =>
      intro meeting after farewells _ _ result
      obtain ⟨rfl, equality⟩ := Prod.mk.inj result
      obtain rfl := Except.ok.inj equality
      refine ⟨rfl, _, _, .nothing _ _, ?_⟩
      simp
  | cons participant others inductionHypothesis =>
      intro meeting after farewells tracked distinct result
      obtain ⟨notLater, othersDistinct⟩ := List.nodup_cons.1 distinct
      have found := tracked participant List.mem_cons_self
      rw [pauseEach] at result
      split at result
      · simp at result
      · next recorded taken =>
          obtain ⟨store, files, takes, rfl⟩ :=
            append_putParticipant_ok taken
          split at result
          · simp at result
          · next reached closed later =>
              obtain ⟨rfl, equality⟩ := Prod.mk.inj result
              obtain rfl := Except.ok.inj equality
              have othersTracked : ∀ other ∈ others,
                  (meeting.participants.insert participant.identity
                    participant.fallSilent).get? other.identity =
                      some other := by
                intro other member
                have different :
                    other.identity ≠ participant.identity := by
                  intro same
                  exact notLater
                    (List.mem_map.2 ⟨other, member, same⟩)
                rw [Table.get?_insert_of_ne _ different]
                exact tracked other (List.mem_cons_of_mem _ member)
              obtain ⟨rfl, laterStore, laterFiles, laterTakes, rfl⟩ :=
                inductionHypothesis (by exact othersTracked)
                  othersDistinct later
              refine ⟨?_, laterStore, laterFiles, ?_, ?_⟩
              · cases session : participant.session <;>
                  simp [farewellOf, session]
              · exact takes.append laterTakes
              · rw [List.map_cons,
                  changedAmong_cons_of_found found _ notLater]
                simp [note, pausedRecord, pausedNote, silence,
                  Participant.fallSilent, now]

/-- When everybody with a session is paused, nobody has one any more. -/
theorem pauseEach_listeners_ok {meeting after : Meeting}
    {farewells : List Farewell} (keyed : meeting.IsKeyed)
    (result :
      pauseEach meeting.clock meeting meeting.listeners recorder =
        (after, .ok farewells)) :
    farewells = meeting.remainingSessions ∧
    ∃ store files,
      Store.Accepts recorder meeting.store meeting.files
        (meeting.listeners.map (pausedRecord meeting.clock)) store files ∧
      after =
        { meeting with
          store := store
          files := files
          participants :=
            meeting.participants.map fun _ participant => participant.hush
          records :=
            meeting.records ++
              meeting.listeners.map (pausedRecord meeting.clock)
          trace :=
            meeting.trace ++ meeting.listeners.map fun participant =>
              Entry.mk meeting.now (meeting.pausedNote participant) } := by
  have tracked : ∀ participant ∈ meeting.listeners,
      meeting.participants.get? participant.identity =
        some participant := by
    intro participant member
    exact ((mem_listeners_iff keyed participant).1 member).1
  obtain ⟨rfl, store, files, takes, rfl⟩ :=
    pauseEach_ok tracked (listeners_identity_nodup keyed) result
  refine ⟨listeners_farewells meeting, store, files, takes, ?_⟩
  rw [changedAmong_listeners keyed]

def pauseNote (timeout : Nat) : Note :=
  Note.warning ("All participants idle for " ++ minutesText 0 timeout ++
    "+ min - pausing transcription")

theorem pause_ok {meeting after : Meeting} {timeout : Nat}
    {farewells : List Farewell} (keyed : meeting.IsKeyed)
    (result : meeting.pause timeout recorder = (after, .ok farewells)) :
    farewells = meeting.remainingSessions ∧
    ∃ store files,
      Store.Accepts recorder meeting.store meeting.files
        (meeting.listeners.map (pausedRecord meeting.clock)) store files ∧
      after =
        { meeting with
          store := store
          files := files
          participants :=
            meeting.participants.map fun _ participant => participant.hush
          isPaused := true
          farewells := meeting.farewells ++ meeting.remainingSessions
          leaving := meeting.leaving ++ meeting.remainingSessions
          records :=
            meeting.records ++
              meeting.listeners.map (pausedRecord meeting.clock)
          trace :=
            meeting.trace ++ [Entry.mk meeting.now (pauseNote timeout)] ++
              meeting.listeners.map fun participant =>
                Entry.mk meeting.now (meeting.pausedNote participant) } := by
  unfold pause at result
  simp only at result
  split at result
  · simp at result
  · next reached closed silenced =>
      obtain ⟨rfl, equality⟩ := Prod.mk.inj result
      obtain rfl := Except.ok.inj equality
      obtain ⟨rfl, store, files, takes, rfl⟩ :=
        pauseEach_listeners_ok (by exact keyed) silenced
      exact ⟨rfl, store, files, takes, rfl⟩

theorem checkIdle_of_isSilent {meeting : Meeting} {timeout : Nat}
    (limit : meeting.options.idleTimeout = some timeout)
    (silent : meeting.isSilent timeout = true)
    (recorder : Recorder := Store.appendCore) :
    meeting.checkIdle recorder =
      ((meeting.pause timeout recorder).1,
        (meeting.pause timeout recorder).2.map some) := by
  rw [checkIdle, limit]
  exact if_pos silent

theorem checkIdle_of_not_isSilent {meeting : Meeting} {timeout : Nat}
    (limit : meeting.options.idleTimeout = some timeout)
    (active : meeting.isSilent timeout = false)
    (recorder : Recorder := Store.appendCore) :
    meeting.checkIdle recorder = (meeting, .ok none) := by
  rw [checkIdle, limit]
  exact if_neg (Bool.not_eq_true _ ▸ active)

end Meeting

end MeetingLog
