import MeetingLog.Proofs.Meeting.Openings
import MeetingLog.Proofs.Meeting.Silence

/-!
# Pauses that overtake an opening

Somebody who comes back may get a session while another one, asked for before
they left, is still being opened. A pause takes the session that they have, and
so overtakes that opening. If it succeeds during the pause, they have a session
although they are paused. In no other way does anybody who is paused come to
have one, and it does not happen as long as everybody waits to come back until
no session is being opened for them any more.
-/

namespace MeetingLog

open MeetingLog.Calendar
open MeetingLog.Files

/-! ## Participants at rest -/

/-- `participant.IsResting isAwaited isPaused` means that the participant has no
session if one is marked as being opened, and that if they are paused, they lack
a session, none is being opened for them, and the whole group is paused. -/
structure Participant.IsResting (isAwaited : Prop) (isPaused : Bool)
    (participant : Participant) : Prop where
  alone : participant.isOpening = true → participant.session = none
  lacks : participant.presence = .idle → participant.lacksSession = true
  unawaited : participant.presence = .idle → ¬ isAwaited
  together : participant.presence = .idle → isPaused = true

namespace Participant.IsResting

variable {isAwaited isAwaitedLater : Prop} {isPaused isPausedLater : Bool}
variable {participant changed : Participant}

/-- Nothing but the mark and the session counts for somebody who is active. -/
theorem ofActive (active : participant.presence = .active)
    (alone : participant.isOpening = true → participant.session = none) :
    participant.IsResting isAwaited isPaused := by
  have awake : participant.presence ≠ .idle := by
    rw [active]
    exact Presence.noConfusion
  exact
    { alone := alone
      lacks := fun idle => absurd idle awake
      unawaited := fun idle => absurd idle awake
      together := fun idle => absurd idle awake }

theorem isActive_of_isAwaited (rests : participant.IsResting isAwaited isPaused)
    (awaited : isAwaited) : participant.presence = .active := by
  cases presence : participant.presence with
  | active => rfl
  | idle => exact absurd awaited (rests.unawaited presence)

theorem isActive_of_not_isPaused
    (rests : participant.IsResting isAwaited isPaused)
    (notPaused : isPaused = false) : participant.presence = .active := by
  cases presence : participant.presence with
  | active => rfl
  | idle =>
      rw [rests.together presence] at notPaused
      cases notPaused

theorem mono (rests : participant.IsResting isAwaited isPaused)
    (fewer : isAwaitedLater → isAwaited) :
    participant.IsResting isAwaitedLater isPaused where
  alone := rests.alone
  lacks := rests.lacks
  unawaited idle awaited := rests.unawaited idle (fewer awaited)
  together := rests.together

/-- Somebody may lose the mark, as long as they keep their session. -/
theorem congr (rests : participant.IsResting isAwaited isPaused)
    (fewerMarks :
      changed.isOpening = true → participant.isOpening = true)
    (sameSession : changed.session = participant.session)
    (samePresence : changed.presence = participant.presence) :
    changed.IsResting isAwaited isPaused where
  alone isOpening := by
    rw [sameSession]
    exact rests.alone (fewerMarks isOpening)
  lacks idle := by
    rw [samePresence] at idle
    obtain ⟨none, unmarked⟩ := lacksSession_iff.1 (rests.lacks idle)
    refine lacksSession_iff.2 ⟨sameSession.trans none, ?_⟩
    by_contra isOpening
    rw [fewerMarks (Bool.eq_true_of_not_eq_false isOpening)] at unmarked
    cases unmarked
  unawaited idle := rests.unawaited (samePresence.symm.trans idle)
  together idle := rests.together (samePresence.symm.trans idle)

/-- After the end of a pause, everybody is active. -/
theorem wake (rests : participant.IsResting isAwaited isPaused)
    (elapsed : Nat) :
    (participant.wake elapsed).IsResting isAwaitedLater isPausedLater := by
  rw [Participant.wake]
  cases lacks : participant.lacksSession with
  | true =>
      exact ofActive rfl fun _ => (lacksSession_iff.1 lacks).1
  | false =>
      rw [if_neg Bool.false_ne_true]
      refine ofActive ?_ rests.alone
      cases presence : participant.presence with
      | active => rfl
      | idle =>
          rw [rests.lacks presence] at lacks
          cases lacks

/-- Whoever falls silent does not wait for another session. -/
theorem hush (rests : participant.IsResting isAwaited isPaused)
    (notOvertaken : participant.session.isSome = true → ¬ isAwaited) :
    participant.hush.IsResting isAwaited true := by
  rw [Participant.hush]
  split
  · next listens =>
      have unmarked : participant.isOpening = false := by
        by_contra isOpening
        rw [rests.alone (Bool.eq_true_of_not_eq_false isOpening)] at listens
        cases listens
      exact
        { alone := fun _ => rfl
          lacks := fun _ => lacksSession_iff.2 ⟨rfl, unmarked⟩
          unawaited := fun _ => notOvertaken listens
          together := fun _ => rfl }
  · exact
      { alone := rests.alone
        lacks := rests.lacks
        unawaited := rests.unawaited
        together := fun _ => rfl }

theorem release (rests : participant.IsResting isAwaited isPaused) :
    participant.release.IsResting isAwaited isPaused where
  alone _ := rfl
  lacks idle :=
    lacksSession_iff.2 ⟨rfl, (lacksSession_iff.1 (rests.lacks idle)).2⟩
  unawaited := rests.unawaited
  together := rests.together

end Participant.IsResting

namespace Meeting

variable {recorder : Recorder} {meeting after : Meeting} {move : Move}
variable {options : MeetingOptions} {storeOptions : StoreOptions}
variable {files : FileTree} {began : Moment} {begun : Meeting}

/-! ## Rules for a run -/

/-- `meeting.keepsTo rule moves` means that all moves, done one after another,
are as the rule wants them. -/
def keepsTo (rule : Meeting → Move → Bool) (meeting : Meeting) :
    List Move → Bool
  | [] => true
  | move :: moves =>
      rule meeting move && (meeting.perform move).keepsTo rule moves

/-- What every move that is as the rule wants it leaves true is true after a run
that keeps to the rule. If every such move is also as another rule wants it, the
run keeps to that rule, too. -/
theorem keepsTo_induction {rule : Meeting → Move → Bool}
    (other : Meeting → Move → Bool) (invariant : Meeting → Prop)
    (implies : ∀ meeting move, meeting.IsKeyed → invariant meeting →
      rule meeting move = true → other meeting move = true)
    (step : ∀ meeting move after, meeting.IsKeyed → invariant meeting →
      rule meeting move = true → Outcome meeting move after →
        invariant after) {moves : List Move} :
    ∀ {meeting : Meeting}, meeting.IsKeyed → invariant meeting →
      meeting.takesAll moves = true → meeting.keepsTo rule moves = true →
        invariant (meeting.performAll moves) ∧
          meeting.keepsTo other moves = true := by
  induction moves with
  | nil =>
      intro meeting _ holds _ _
      exact ⟨holds, rfl⟩
  | cons move later inductionHypothesis =>
      intro meeting keyed holds taken keeps
      rw [takesAll, Bool.and_eq_true] at taken
      rw [keepsTo, Bool.and_eq_true] at keeps
      have outcome := perform_outcome keyed taken.1
      obtain ⟨stillHolds, keepsToo⟩ :=
        inductionHypothesis (outcome.isKeyed keyed)
          (step _ _ _ keyed holds keeps.1 outcome) taken.2 keeps.2
      refine ⟨stillHolds, ?_⟩
      rw [keepsTo, implies _ _ keyed holds keeps.1, keepsToo]
      rfl

/-- `meeting.overtakes move` means that the move pauses the group although a
session is being opened for somebody who has one. -/
def overtakes (meeting : Meeting) : Move → Bool
  | .checkIdle | .checkRegularly =>
      meeting.fallsSilent &&
        meeting.listeners.any fun participant =>
          meeting.awaited.contains participant.identity
  | _ => false

/-- `meeting.neverOvertakes moves` means that no pause of the run overtakes an
opening. -/
def neverOvertakes (meeting : Meeting) (moves : List Move) : Bool :=
  meeting.keepsTo (fun reached move => !reached.overtakes move) moves

/-- `meeting.staysPatient moves` means that all moves, done one after another,
are patient. -/
def staysPatient (meeting : Meeting) (moves : List Move) : Bool :=
  meeting.keepsTo isPatient moves

theorem overtakes_of_isCheck
    (isCheck : move = .checkIdle ∨ move = .checkRegularly) :
    meeting.overtakes move =
      (meeting.fallsSilent &&
        meeting.listeners.any fun participant =>
          meeting.awaited.contains participant.identity) := by
  rcases isCheck with rfl | rfl <;> rfl

/-- Whatever overtakes an opening is a check that pauses the group, and somebody
who has a session waits for another one. -/
theorem exists_awaited_of_overtakes (keyed : meeting.IsKeyed)
    (overtakes : meeting.overtakes move = true) :
    (move = .checkIdle ∨ move = .checkRegularly) ∧
      meeting.fallsSilent = true ∧
      ∃ identity ∈ meeting.awaited,
        ∃ session, meeting.IsAttached identity session := by
  have isCheck : move = .checkIdle ∨ move = .checkRegularly := by
    cases move with
    | checkIdle => exact .inl rfl
    | checkRegularly => exact .inr rfl
    | _ => cases overtakes
  rw [overtakes_of_isCheck isCheck, Bool.and_eq_true, List.any_eq_true]
    at overtakes
  obtain ⟨fallsSilent, participant, member, awaited⟩ := overtakes
  exact ⟨isCheck, fallsSilent, participant.identity,
    List.contains_iff_mem.1 awaited, exists_isAttached keyed member⟩

/-! ## Runs in which nothing is overtaken -/

/-- `meeting.Rests` means that everybody is at rest. -/
def Rests (meeting : Meeting) : Prop :=
  meeting.participants.Holds fun identity participant =>
    participant.IsResting (identity ∈ meeting.awaited) meeting.isPaused

namespace Rests

/-- Openings may come to an end. -/
theorem fewer (rests : meeting.Rests)
    (sameParticipants : after.participants = meeting.participants)
    (fewerAwaited : after.awaited ⊆ meeting.awaited)
    (samePause : after.isPaused = meeting.isPaused) : after.Rests := by
  rw [Rests, sameParticipants, samePause]
  exact rests.mono fun _ _ fits => fits.mono fun awaited =>
    fewerAwaited awaited

/-- Everybody who is paused has been so before. -/
theorem insert (rests : meeting.Rests) {key : String}
    {participant : Participant}
    (changed :
      after.participants = meeting.participants.insert key participant)
    (fewer : ∀ identity, identity ≠ key → identity ∈ after.awaited →
      identity ∈ meeting.awaited)
    (samePause : after.isPaused = meeting.isPaused)
    (fits : participant.IsResting (key ∈ after.awaited) meeting.isPaused) :
    after.Rests := by
  rw [Rests, changed, samePause]
  exact Table.Holds.insert rests fits fun identity _ different fits =>
    fits.mono (fewer identity different)

theorem modify (rests : meeting.Rests) {key : String}
    {change : Participant → Participant}
    (changed : after.participants = meeting.participants.modify key change)
    (fewerAwaited : after.awaited ⊆ meeting.awaited)
    (samePause : after.isPaused = meeting.isPaused)
    (fits : ∀ (isAwaited : Prop) (participant : Participant),
      participant.IsResting isAwaited meeting.isPaused →
        (change participant).IsResting isAwaited meeting.isPaused) :
    after.Rests := by
  have still : meeting.participants.Holds fun identity participant =>
      participant.IsResting (identity ∈ after.awaited) meeting.isPaused :=
    rests.mono fun _ _ fits => fits.mono fun awaited => fewerAwaited awaited
  rw [Rests, changed, samePause]
  exact still.modify (fun participant => fits _ participant)
    fun _ _ _ kept => kept

theorem map (rests : meeting.Rests) {change : Participant → Participant}
    (changed : after.participants =
      meeting.participants.map fun _ participant => change participant)
    (fits : ∀ identity participant,
      meeting.participants.get? identity = some participant →
      participant.IsResting (identity ∈ meeting.awaited) meeting.isPaused →
        (change participant).IsResting (identity ∈ after.awaited)
          after.isPaused) : after.Rests := by
  rw [Rests, changed]
  exact Table.Holds.map rests fits

end Rests

/-- A move that overtakes no opening leaves everybody resting. -/
theorem Effect.rests (keyed : meeting.IsKeyed) (rests : meeting.Rests)
    (notOvertaking : meeting.overtakes move = false)
    (effect : Effect recorder meeting move after) : after.Rests := by
  have drops (ticket : Nat) :
      (meeting.dropOpening ticket).awaited ⊆ meeting.awaited :=
    (awaited_dropOpening_sublist ticket).subset
  cases effect with
  | joined hears absent takes =>
      refine rests.insert rfl (fun other different member => ?_) rfl
        (.ofActive rfl fun _ => rfl)
      simpa [awaited, different] using member
  | left => exact Table.Holds.erase rests
  | woken =>
      rw [requestOpenings_eq]
      exact rests.map rfl fun _ _ _ fits => fits.wake _
  | retried hears found lacks notPaused =>
      have fits := rests _ _ found
      refine rests.insert rfl (fun other different member => ?_) rfl
        (.ofActive (fits.isActive_of_not_isPaused notPaused)
          fun _ => (Participant.lacksSession_iff.1 lacks).1)
      simpa [awaited, different] using member
  | spoken =>
      exact rests.modify rfl (fun _ member => member) rfl
        fun _ _ fits => fits.congr id rfl rfl
  | @openingBegun ticket opening found waiting =>
      have same := awaited_beginOpening meeting opening
      exact rests.fewer rfl (same ▸ List.Subset.refl _) rfl
  | openingFailed =>
      exact rests.modify rfl (drops _) rfl fun _ _ fits =>
        fits.congr Bool.noConfusion rfl rfl
  | attached found begun tracked held =>
      -- Somebody for whom a session is being opened is not paused.
      have active := (rests _ _ tracked).isActive_of_isAwaited
        (mem_awaited_of_opening? found)
      exact rests.insert rfl (fun _ _ member => drops _ member) rfl
        (.ofActive active Bool.noConfusion)
  | discarded found begun tracked held =>
      have fits := rests _ _ tracked
      exact rests.insert rfl (fun _ _ member => drops _ member) rfl
        ((fits.mono fun member => drops _ member).congr Bool.noConfusion
          rfl rfl)
  | orphaned => exact rests.fewer rfl (drops _) rfl
  | @paused _ timeout store files isCheck limit silent takes =>
      refine rests.map rfl fun identity participant tracked fits =>
        fits.hush fun listens awaited => ?_
      have same := keyed identity participant tracked
      have member : participant ∈ meeting.listeners := by
        rw [mem_listeners_iff keyed, same]
        exact ⟨tracked, listens⟩
      have fallsSilent : meeting.fallsSilent = true := by
        rw [Meeting.fallsSilent, limit]
        exact silent
      rw [overtakes_of_isCheck isCheck, fallsSilent, Bool.true_and,
        List.any_eq_false] at notOvertaking
      refine notOvertaking participant member ?_
      rw [same]
      exact List.contains_iff_mem.2 awaited
  | abandoned => exact rests.fewer rfl (List.nil_subset _) rfl
  | collected =>
      exact rests.map rfl fun _ _ _ fits => fits.release
  | finished =>
      rw [finish_eq]
      exact rests
  | _ => exact rests

theorem start_rests
    (started :
      (Meeting.new options storeOptions files began).start =
        (begun, .ok ())) : begun.Rests := by
  obtain ⟨-, rfl⟩ := start_ok started
  intro identity participant found
  cases found

/-! ## Patient runs -/

namespace IsPrompt

/-- No pause overtakes anything. -/
theorem overtakes_eq_false (prompt : meeting.IsPrompt)
    (keyed : meeting.IsKeyed) (rests : meeting.Rests) (move : Move) :
    meeting.overtakes move = false := by
  by_contra overtakes
  obtain ⟨-, -, identity, awaited, session, participant, found, held⟩ :=
    exists_awaited_of_overtakes keyed
      (Bool.eq_true_of_not_eq_false overtakes)
  have isOpening := prompt.marked identity participant found awaited
  rw [(rests identity participant found).alone isOpening] at held
  cases held

/-- Openings may come to an end. -/
theorem fewer (prompt : meeting.IsPrompt)
    (sameParticipants : after.participants = meeting.participants)
    (fewerAwaited : after.awaited.Sublist meeting.awaited) :
    after.IsPrompt := by
  refine ⟨fewerAwaited.nodup prompt.once, ?_⟩
  rw [sameParticipants]
  exact prompt.marked.mono fun _ _ marked member =>
    marked (fewerAwaited.subset member)

/-- An opening comes to an end, and only its participant may lose the mark. -/
theorem drop (prompt : meeting.IsPrompt) {ticket : Nat} {opening : Opening}
    (found : meeting.opening? ticket = some opening)
    (fewer :
      after.awaited = (meeting.dropOpening opening.ticket).awaited)
    (marked : after.participants.Holds fun identity participant =>
      identity = opening.identity ∨
        (identity ∈ meeting.awaited → participant.isOpening = true)) :
    after.IsPrompt := by
  have sublist :
      (meeting.dropOpening opening.ticket).awaited.Sublist meeting.awaited :=
    awaited_dropOpening_sublist _
  refine ⟨fewer ▸ sublist.nodup prompt.once, ?_⟩
  rw [fewer]
  refine marked.mono fun identity participant fits member => ?_
  rcases fits with rfl | fits
  · exact absurd member (not_mem_awaited_dropOpening prompt.once found)
  · exact fits (sublist.subset member)

/-- Sessions are asked for, for some who lack one. -/
theorem request (prompt : meeting.IsPrompt) (identities : List String)
    (distinct : identities.Nodup)
    (unawaited : ∀ identity ∈ identities, identity ∉ meeting.awaited)
    (more : after.awaited = meeting.awaited ++ identities)
    (marked : after.participants.Holds fun identity participant =>
      identity ∈ identities ∨ identity ∈ meeting.awaited →
        participant.isOpening = true) : after.IsPrompt := by
  constructor
  · rw [more]
    exact prompt.once.append distinct fun identity waits asks =>
      unawaited identity asks waits
  · rw [more]
    refine marked.mono fun identity participant fits member => fits ?_
    exact (List.mem_append.1 member).symm

end IsPrompt

/-- A patient move leaves nobody waiting for two sessions. -/
theorem Effect.isPrompt (prompt : meeting.IsPrompt)
    (patient : meeting.isPatient move = true)
    (effect : Effect recorder meeting move after) : after.IsPrompt := by
  cases effect with
  | @joined _ identity name store files hears absent takes =>
      have notAwaited : identity ∉ meeting.awaited :=
        not_mem_awaited_of_isPatient patient hears absent
      refine prompt.request [identity] (List.nodup_singleton identity) ?_
        List.map_append ?_
      · intro other member
        rwa [List.mem_singleton.1 member]
      · exact prompt.marked.insert (fun _ => rfl)
          fun other participant different fits member =>
            fits (member.resolve_left (by simpa using different))
  | left => exact ⟨prompt.once, prompt.marked.erase⟩
  | woken hears found lacks isPaused takes =>
      rw [requestOpenings_eq]
      refine prompt.request (meeting.lacking meeting.participants.keys)
        (meeting.participants.keys_nodup.sublist List.filter_sublist) ?_ ?_ ?_
      · intro identity member
        obtain ⟨participant, tracked, lacksToo⟩ := mem_lacking_keys.1 member
        exact prompt.not_mem_awaited tracked lacksToo
      · rw [awaited, List.map_append, map_identity_requested]
        rfl
      · refine prompt.marked.map fun identity participant tracked fits member =>
          ?_
        rw [isOpening_wake, Bool.or_eq_true]
        rcases member with asks | waits
        · obtain ⟨same, trackedToo, lacksToo⟩ := mem_lacking_keys.1 asks
          obtain rfl := Option.some.inj (tracked.symm.trans trackedToo)
          exact .inr lacksToo
        · exact .inl (fits waits)
  | @retried _ identity participant hears found lacks notPaused =>
      refine prompt.request [identity] (List.nodup_singleton identity) ?_
        List.map_append ?_
      · intro other member
        rw [List.mem_singleton.1 member]
        exact prompt.not_mem_awaited found lacks
      · exact prompt.marked.insert (fun _ => rfl)
          fun other participant different fits member =>
            fits (member.resolve_left (by simpa using different))
  | spoken =>
      exact ⟨prompt.once, prompt.marked.modify (fun _ fits => fits)
        fun _ _ _ fits => fits⟩
  | @openingBegun ticket opening found waiting =>
      have same := awaited_beginOpening meeting opening
      exact prompt.fewer rfl (same ▸ List.Sublist.refl _)
  | openingFailed found begun =>
      exact prompt.drop found rfl <| prompt.marked.modify
        (fun _ _ => .inl rfl) fun _ _ _ fits => .inr fits
  | attached found begun tracked held =>
      exact prompt.drop found rfl <| prompt.marked.insert (.inl rfl)
        fun _ _ _ fits => .inr fits
  | discarded found begun tracked held =>
      exact prompt.drop found rfl <| prompt.marked.insert (.inl rfl)
        fun _ _ _ fits => .inr fits
  | orphaned => exact prompt.fewer rfl (awaited_dropOpening_sublist _)
  | paused =>
      refine ⟨prompt.once, prompt.marked.map fun _ participant _ fits => ?_⟩
      rw [isOpening_hush]
      exact fits
  | abandoned => exact prompt.fewer rfl (List.nil_sublist _)
  | collected =>
      exact ⟨prompt.once, prompt.marked.map fun _ _ _ fits => fits⟩
  | finished =>
      rw [finish_eq]
      exact ⟨prompt.once, prompt.marked⟩
  | _ => exact ⟨prompt.once, prompt.marked⟩

theorem start_isPrompt
    (started :
      (Meeting.new options storeOptions files began).start =
        (begun, .ok ())) : begun.IsPrompt := by
  obtain ⟨-, rfl⟩ := start_ok started
  refine ⟨List.nodup_nil, fun identity participant found => ?_⟩
  cases found

/-! ## A session during a pause -/

/-- An opening that is asked for is still in flight afterwards, and nothing else
has changed that counts for its participant. -/
theorem perform_beginOpening {ticket : Nat} {opening : Opening}
    (found : meeting.opening? ticket = some opening) :
    (meeting.perform (.beginOpening ticket)).opening? ticket =
        some { opening with isBegun := true } ∧
      (meeting.perform (.beginOpening ticket)).participants =
        meeting.participants := by
  have same : opening.ticket = ticket := by
    simpa using List.find?_some found
  simp only [perform, found]
  cases begun : opening.isBegun with
  | true =>
      refine ⟨?_, rfl⟩
      rw [if_pos rfl, found, ← begun]
  | false =>
      refine ⟨?_, rfl⟩
      have kept : (fun other : Opening => decide (other.ticket = ticket)) ∘
          markBegun opening.ticket =
            fun other => decide (other.ticket = ticket) := by
        funext other
        rw [Function.comp_apply, markBegun]
        split <;> rfl
      calc (meeting.openings.map (markBegun opening.ticket)).find?
            (fun other => decide (other.ticket = ticket))
          = (meeting.opening? ticket).map (markBegun opening.ticket) := by
            rw [List.find?_map, kept]
            rfl
        _ = some { opening with isBegun := true } := by
            rw [found, Option.map_some, markBegun, if_pos rfl]

/-- Somebody without a session has one after a session has been opened for them,
whether they are paused or not. -/
theorem get?_of_lateOpening (keyed : meeting.IsKeyed) {ticket : Nat}
    {opening : Opening} (found : meeting.opening? ticket = some opening)
    {participant : Participant}
    (tracked :
      meeting.participants.get? opening.identity = some participant)
    (none : participant.session = none) (name : String) :
    ∃ session,
      (meeting.performAll [.beginOpening ticket,
        .finishOpening ticket (.opened name)]).participants.get?
          opening.identity =
        some { participant.endOpening with session := some session } := by
  obtain ⟨inFlight, same⟩ := perform_beginOpening found
  have stillKeyed : (meeting.perform (.beginOpening ticket)).IsKeyed := by
    rw [IsKeyed, same]
    exact keyed
  rw [← same] at tracked
  exact ⟨_, get?_finishOpening stillKeyed inFlight rfl tracked none name⟩

/-- When a pause has overtaken an opening that then succeeds, somebody has a
session although they are paused. -/
theorem exists_session_of_overtakes (keyed : meeting.IsKeyed)
    (findable : ∀ opening ∈ meeting.openings,
      meeting.opening? opening.ticket = some opening)
    (overtakes : meeting.overtakes move = true)
    (takes : meeting.takes move = true) :
    ∃ opening ∈ meeting.openings, ∀ name,
      let late := [move, .beginOpening opening.ticket,
        .finishOpening opening.ticket (.opened name)]
      meeting.takesAll late = true ∧
      ∃ participant,
        (meeting.performAll late).participants.get? opening.identity =
          some participant ∧
        participant.presence = .idle ∧ participant.session.isSome = true := by
  obtain ⟨isCheck, fallsSilent, identity, awaited, session, attached⟩ :=
    exists_awaited_of_overtakes keyed overtakes
  obtain ⟨opening, member, rfl⟩ := List.mem_map.1 awaited
  obtain ⟨timeout, limit, silent⟩ := Option.any_eq_true _ _ |>.1 fallsSilent
  obtain ⟨farewells, -, pause⟩ :=
    perform_check_of_isSilent keyed isCheck limit silent takes
  have silenced := pause.silenced _ ((pause.sessions _ _).2 attached)
  obtain ⟨participant, tracked, -⟩ := attached
  rw [tracked, Option.map_some] at silenced
  have inFlight :
      (meeting.perform move).opening? opening.ticket = some opening := by
    have sameOpenings :
        (meeting.perform move).openings = meeting.openings := by
      rw [pause.changed]
    rw [opening?, sameOpenings]
    exact findable opening member
  have stillKeyed := (perform_outcome keyed takes).isKeyed keyed
  refine ⟨opening, member, fun name => ⟨?_, ?_⟩⟩
  · rw [takesAll, takes]
    rfl
  · obtain ⟨late, found⟩ :=
      get?_of_lateOpening stillKeyed inFlight silenced rfl name
    exact ⟨_, found, rfl, rfl⟩

/-! ## Who has a session during a pause -/

/-- Nobody who is paused has a session, as long as no pause overtakes an
opening, which none does if everybody waits to come back until no session is
being opened for them. But whenever a pause overtakes an opening, the opening
may still succeed, and then somebody who is paused has a session. -/
theorem paused_have_no_session_unless_overtaken {options : MeetingOptions}
    {storeOptions : StoreOptions} {files : FileTree} {began : Moment}
    {begun : Meeting}
    (started :
      (Meeting.new options storeOptions files began).start =
        (begun, .ok ()))
    {moves : List Move} (taken : begun.takesAll moves = true) :
    let reached := begun.performAll moves
    (begun.neverOvertakes moves = true →
      ∀ identity participant,
        reached.participant? identity = some participant →
        participant.presence = .idle → participant.session = none) ∧
    (begun.staysPatient moves = true → begun.neverOvertakes moves = true) ∧
    (∀ check, reached.overtakes check = true → reached.takes check = true →
      ∃ opening ∈ reached.openings, ∀ name,
        let late := [check, .beginOpening opening.ticket,
          .finishOpening opening.ticket (.opened name)]
        reached.takesAll late = true ∧
        ∃ participant,
          (reached.performAll late).participant? opening.identity =
            some participant ∧
          participant.presence = .idle ∧
          participant.session.isSome = true) := by
  intro reached
  have keyed := start_isKeyed started
  have rests := start_rests started
  refine ⟨fun neverOvertakes identity participant found idle => ?_,
    fun patient => ?_, fun check overtakes takes => ?_⟩
  · obtain ⟨stillRests, -⟩ := keepsTo_induction
      (fun reached move => !reached.overtakes move) Rests
      (fun _ _ _ _ kept => kept)
      (fun _ _ _ keyed rests notOvertaking outcome =>
        outcome.rests keyed rests ((Bool.not_eq_true' _).mp notOvertaking))
      keyed rests taken neverOvertakes
    have lacks := (stillRests identity participant found).lacks idle
    exact (Participant.lacksSession_iff.1 lacks).1
  · exact (keepsTo_induction (fun reached move => !reached.overtakes move)
      (fun meeting => meeting.Rests ∧ meeting.IsPrompt)
      (fun _ move keyed holds _ =>
        (Bool.not_eq_true' _).mpr
          (holds.2.overtakes_eq_false keyed holds.1 move))
      (fun _ move _ keyed holds patient outcome =>
        ⟨outcome.rests keyed holds.1
            (holds.2.overtakes_eq_false keyed holds.1 move),
          outcome.isPrompt holds.2 patient⟩)
      keyed ⟨rests, start_isPrompt started⟩ taken patient).2
  · exact exists_session_of_overtakes (reached_isKeyed started taken)
      (fun _ member => reached_opening?_eq started taken member)
      overtakes takes

/-- Nobody has a session during the pause of a patient run, and in a run in which
somebody comes back too early a pause overtakes their first opening. -/
theorem paused_have_no_session_of_comingRound :
    let begun := resting.start.1
    let paused := begun.performAll comingRound.dropLast
    let hasty := begun.performAll (openingLate.take 7)
    resting.start = (begun, .ok ()) ∧
      begun.takesAll comingRound.dropLast = true ∧
      begun.staysPatient comingRound.dropLast = true ∧
      (∃ ada, paused.participant? "ada" = some ada ∧
        ada.presence = .idle ∧ ada.session = none) ∧
      begun.takesAll (openingLate.take 7) = true ∧
      hasty.overtakes .checkIdle = true ∧ hasty.takes .checkIdle = true ∧
      ∃ opening ∈ hasty.openings, ∀ name,
        let late := [.checkIdle, .beginOpening opening.ticket,
          .finishOpening opening.ticket (.opened name)]
        hasty.takesAll late = true ∧
        ∃ participant,
          (hasty.performAll late).participant? opening.identity =
            some participant ∧
          participant.presence = .idle ∧
          participant.session.isSome = true := by
  intro begun paused hasty
  have started : resting.start = (begun, .ok ()) :=
    Prod.ext rfl (by decide +kernel)
  obtain ⟨taken, patient, silenced, takenHasty, overtakes, takes⟩ :
      begun.takesAll comingRound.dropLast = true ∧
      begun.staysPatient comingRound.dropLast = true ∧
      (paused.participant? "ada").any (fun ada => ada.presence == .idle) =
        true ∧
      begun.takesAll (openingLate.take 7) = true ∧
      hasty.overtakes .checkIdle = true ∧
      hasty.takes .checkIdle = true := by
    decide +kernel
  obtain ⟨ada, found, presence⟩ := Option.any_eq_true _ _ |>.1 silenced
  have idle : ada.presence = .idle := eq_of_beq presence
  obtain ⟨silent, waits, -⟩ :=
    paused_have_no_session_unless_overtaken started taken
  obtain ⟨-, -, succeeds⟩ :=
    paused_have_no_session_unless_overtaken started takenHasty
  exact ⟨started, taken, patient,
    ⟨ada, found, idle, silent (waits patient) "ada" ada found idle⟩,
    takenHasty, overtakes, takes, succeeds .checkIdle overtakes takes⟩

/-- In that run, the first session is opened during the pause, and then somebody
who is paused has a session. -/
theorem session_comes_during_pause :
    let begun := resting.start.1
    let late := begun.performAll openingLate.dropLast
    resting.start = (begun, .ok ()) ∧
      begun.takesAll openingLate.dropLast = true ∧ late.isClosed = false ∧
      ¬ ∀ identity participant,
        late.participant? identity = some participant →
        participant.presence = .idle → participant.session = none := by
  intro begun late
  have started : resting.start = (begun, .ok ()) :=
    Prod.ext rfl (by decide +kernel)
  obtain ⟨taken, isOpen, both⟩ :
      begun.takesAll openingLate.dropLast = true ∧ late.isClosed = false ∧
      (late.participant? "ada").any (fun ada =>
        ada.presence == .idle && ada.session == some ⟨1, "first"⟩) =
          true := by
    decide +kernel
  refine ⟨started, taken, isOpen, fun silent => ?_⟩
  obtain ⟨ada, found, both⟩ := Option.any_eq_true _ _ |>.1 both
  rw [Bool.and_eq_true, beq_iff_eq, beq_iff_eq] at both
  have none := silent "ada" ada found both.1
  rw [none] at both
  cases both.2

end Meeting

end MeetingLog
