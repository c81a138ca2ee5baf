import MeetingLog.Proofs.Meeting.Silence

/-!
# The end of a pause

One audio track of somebody who lacks a session ends the pause of the whole
group. Everybody who lacks one wakes up with a record and an opening of their
own, and whoever has a session or waits for one is left alone. An audio track of
anybody else changes nothing.
-/

namespace MeetingLog

open MeetingLog.Calendar
open MeetingLog.Files
open MeetingLog.Trace

namespace Participant

/-- Whoever has woken up has a session or waits for one. -/
theorem served_wake (elapsed : Nat) (participant : Participant) :
    (participant.wake elapsed).session.isSome = true ∨
      (participant.wake elapsed).isOpening = true := by
  rw [wake]
  cases lacks : participant.lacksSession with
  | true => exact .inr rfl
  | false =>
      rw [if_neg Bool.false_ne_true]
      cases held : participant.session with
      | none => exact .inr (isOpening_of_lacksSession held lacks)
      | some session => exact .inl rfl

end Participant

namespace Meeting

variable {meeting after : Meeting} {identity : String}

/-- `meeting.Lacks identity` means that the participant is tracked, has no
session and does not have the mark of one being opened. -/
def Lacks (meeting : Meeting) (identity : String) : Prop :=
  ∃ participant, meeting.participant? identity = some participant ∧
    participant.session = none ∧ participant.isOpening = false

/-- `GroupWaking meeting woken after` means that the meeting has become `after`
because the pause of the group ended, and that `woken` are those who woke up. -/
structure GroupWaking (meeting : Meeting) (woken : List String)
    (after : Meeting) : Prop where
  lacked : ∀ identity, identity ∈ woken ↔ meeting.Lacks identity
  inOrder : (woken.map Text.bytesOf).Pairwise (· < ·)
  awake : ∀ identity ∈ woken,
    after.participant? identity =
      (meeting.participant? identity).map fun participant =>
        { participant with
          presence := .active
          lastSpeech := meeting.elapsed
          isOpening := true }
  untouched : ∀ identity, identity ∉ woken →
    after.participant? identity = meeting.participant? identity
  served : ∀ identity participant,
    after.participant? identity = some participant →
      participant.session.isSome = true ∨ participant.isOpening = true
  stored : Store.Takes meeting.store meeting.files
    (woken.map fun identity => .lifecycle ⟨meeting.clock, identity, .resumed⟩)
    after.store after.files
  /-- Nothing else has changed, but for what was noted. An opening was asked for
  once for each of those who woke up. -/
  changed : after =
    { meeting with
      store := after.store
      files := after.files
      participants := after.participants
      isPaused := false
      openings := meeting.openings ++ requested meeting.nextTicket woken
      nextTicket := meeting.nextTicket + woken.length
      records := meeting.records ++ woken.map fun identity =>
        .lifecycle ⟨meeting.clock, identity, .resumed⟩
      trace := after.trace }

/-- `OnlyNotes meeting after` means that `after` differs from the meeting in
nothing but what has been noted. -/
def OnlyNotes (meeting after : Meeting) : Prop :=
  after = { meeting with trace := after.trace }

theorem mem_lacking_keys_iff_lacks :
    identity ∈ meeting.lacking meeting.participants.keys ↔
      meeting.Lacks identity := by
  rw [mem_lacking_keys]
  simp only [Participant.lacksSession_iff]
  rfl

theorem groupWaking_of_resume (keyed : meeting.IsKeyed)
    (woken : meeting.resume = (after, .ok ())) :
    meeting.GroupWaking (meeting.lacking meeting.participants.keys) after := by
  obtain ⟨store, files, takes, rfl⟩ := resume_ok keyed woken
  have ascending : (meeting.lacking meeting.participants.keys).Pairwise
      (· < ·) :=
    meeting.participants.keys_ascending.sublist List.filter_sublist
  rw [requestOpenings_eq]
  constructor
  · exact fun identity => mem_lacking_keys_iff_lacks
  · exact ascending.map (R := (· < ·)) Text.bytesOf fun _ _ => Text.bytesOf_lt
  · intro identity member
    obtain ⟨participant, found, lacks⟩ := mem_lacking_keys.1 member
    rw [participant?, participant?, Table.get?_map, found, Option.map_some,
      Option.map_some, Participant.wake, if_pos lacks]
    rfl
  · intro identity notWoken
    rw [participant?, participant?, Table.get?_map]
    cases found : meeting.participants.get? identity with
    | none => rfl
    | some participant =>
        have served : ¬ participant.lacksSession = true := fun lacks =>
          notWoken (mem_lacking_keys.2 ⟨participant, found, lacks⟩)
        rw [Option.map_some, Participant.wake, if_neg served]
  · intro identity participant found
    rw [participant?, Table.get?_map, Option.map_eq_some_iff] at found
    obtain ⟨before, -, rfl⟩ := found
    exact before.served_wake _
  · exact takes
  · rfl

/-- An audio track of somebody who lacks a session in a paused group ends the
pause. -/
theorem subscribeTrack_of_lacks (isPaused : meeting.isPaused = true)
    (lacks : meeting.Lacks identity) :
    meeting.subscribeTrack identity =
      (meeting.note (trackNote identity)).resume := by
  obtain ⟨participant, found, lacksSession⟩ := lacks
  have foundToo : (meeting.note (Note.info ("Audio track subscribed from " ++
      identity))).participant? identity = some participant :=
    found
  simp only [subscribeTrack, foundToo]
  rw [if_pos (Participant.lacksSession_iff.2 lacksSession)]
  exact if_pos isPaused

/-- An audio track of anybody else is noted, and nothing changes. -/
theorem subscribeTrack_of_not_lacks (served : ¬ meeting.Lacks identity) :
    (meeting.subscribeTrack identity).2 = .ok () ∧
      meeting.OnlyNotes (meeting.subscribeTrack identity).1 := by
  unfold subscribeTrack
  cases found : (meeting.note (Note.info ("Audio track subscribed from " ++
      identity))).participant? identity with
  | none =>
      simp only [found]
      exact ⟨trivial, rfl⟩
  | some participant =>
      have notLacking : ¬ participant.lacksSession = true := fun lacks =>
        served ⟨participant, found, Participant.lacksSession_iff.1 lacks⟩
      simp only [found, if_neg notLacking]
      exact ⟨trivial, rfl⟩

theorem groupWaking_of_subscribeTrack (keyed : meeting.IsKeyed)
    (isPaused : meeting.isPaused = true) (lacks : meeting.Lacks identity)
    (taken : (meeting.subscribeTrack identity).2 = .ok ()) :
    meeting.GroupWaking (meeting.lacking meeting.participants.keys)
      (meeting.subscribeTrack identity).1 := by
  rw [subscribeTrack_of_lacks isPaused lacks] at taken ⊢
  have noted : (meeting.note (trackNote identity)).GroupWaking
      (meeting.lacking meeting.participants.keys)
      (meeting.note (trackNote identity)).resume.1 :=
    groupWaking_of_resume keyed (Prod.ext rfl taken)
  exact { noted with }

/-- One audio track wakes up the whole group. In every run that has reached a
pause, an audio track of somebody who lacks a session ends it: everybody who
lacks one wakes up, and nobody else is touched. An audio track of anybody else
changes nothing. -/
theorem one_track_wakes_the_group {options : MeetingOptions}
    {storeOptions : StoreOptions} {files : FileTree} {began : Moment}
    {begun : Meeting}
    (started :
      (Meeting.new options storeOptions files began).start =
        (begun, .ok ()))
    {moves : List Move} (taken : begun.takesAll moves = true)
    (isPaused : (begun.performAll moves).isPaused = true) :
    let reached := begun.performAll moves
    ∀ identity,
      let tracked := reached.subscribeTrack identity
      (reached.Lacks identity → tracked.2 = .ok () →
        ∃ woken, identity ∈ woken ∧ reached.GroupWaking woken tracked.1) ∧
      (¬ reached.Lacks identity →
        tracked.2 = .ok () ∧ reached.OnlyNotes tracked.1) ∧
      (reached.isClosed = false →
        reached.handle (.trackSubscribed identity) =
          (tracked.1, tracked.2.map fun _ => [])) := by
  intro reached identity tracked
  have keyed : reached.IsKeyed := reached_isKeyed started taken
  refine ⟨?_, ?_, ?_⟩
  · intro lacks takes
    exact ⟨_, mem_lacking_keys_iff_lacks.2 lacks,
      groupWaking_of_subscribeTrack keyed isPaused lacks takes⟩
  · exact subscribeTrack_of_not_lacks
  · intro isOpen
    rw [handle, isOpen, if_neg Bool.false_ne_true]
    rfl

/-- Somebody is paused, and three come in the meantime. A session is opened for
the first of them, none can be opened for the second, and the third still waits
for theirs. -/
def mixedPause : List Move :=
  [.handle (.joined "cleo" none), .beginOpening 0,
    .finishOpening 0 (.opened "paused"), .tick 60000, .checkIdle,
    .handle (.joined "dora" none), .handle (.joined "bob" none),
    .handle (.joined "ada" none), .beginOpening 1, .beginOpening 2,
    .beginOpening 3, .finishOpening 1 (.opened "live"),
    .finishOpening 2 (.failed "refused")]

/-- An audio track of the one for whom no session could be opened wakes them up
together with the one who was paused, and one of somebody unknown changes
nothing. -/
theorem one_track_wakes_the_group_of_mixedPause :
    let begun := resting.start.1
    let reached := begun.performAll mixedPause
    let tracked := reached.subscribeTrack "bob"
    resting.start = (begun, .ok ()) ∧
      begun.takesAll mixedPause = true ∧ reached.isPaused = true ∧
      reached.Lacks "bob" ∧ tracked.2 = .ok () ∧
      (∃ woken,
        (∀ identity, identity ∈ woken ↔ identity ∈ ["bob", "cleo"]) ∧
        reached.GroupWaking woken tracked.1) ∧
      tracked.1.openings = [⟨3, "ada", true⟩, ⟨4, "bob", false⟩,
        ⟨5, "cleo", false⟩] ∧
      reached.OnlyNotes (reached.subscribeTrack "eve").1 := by
  intro begun reached tracked
  have started : resting.start = (begun, .ok ()) :=
    Prod.ext rfl (by decide +kernel)
  obtain ⟨taken, isPaused, bob, eve, takes, lacking, openings⟩ :
      begun.takesAll mixedPause = true ∧ reached.isPaused = true ∧
      (reached.participant? "bob").any Participant.lacksSession = true ∧
      reached.participant? "eve" = none ∧
      tracked.2 = .ok () ∧
      reached.lacking reached.participants.keys = ["bob", "cleo"] ∧
      tracked.1.openings = [⟨3, "ada", true⟩, ⟨4, "bob", false⟩,
        ⟨5, "cleo", false⟩] := by
    decide +kernel
  obtain ⟨participant, found, lacks⟩ := Option.any_eq_true _ _ |>.1 bob
  have bobLacks : reached.Lacks "bob" :=
    ⟨participant, found, Participant.lacksSession_iff.1 lacks⟩
  have eveServed : ¬ reached.Lacks "eve" := by
    rintro ⟨stranger, tracked, -⟩
    rw [eve] at tracked
    cases tracked
  obtain ⟨wakes, -, -⟩ :=
    one_track_wakes_the_group started taken isPaused "bob"
  obtain ⟨-, leaves, -⟩ :=
    one_track_wakes_the_group started taken isPaused "eve"
  obtain ⟨woken, -, waking⟩ := wakes bobLacks takes
  have both : ∀ identity,
      identity ∈ woken ↔ identity ∈ ["bob", "cleo"] := by
    intro identity
    rw [waking.lacked, ← mem_lacking_keys_iff_lacks, lacking]
  exact ⟨started, taken, isPaused, bobLacks, takes, ⟨woken, both, waking⟩,
    openings, (leaves eveServed).2⟩

end Meeting

end MeetingLog
