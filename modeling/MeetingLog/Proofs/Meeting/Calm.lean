import Mathlib.Data.List.Nodup
import MeetingLog.Proofs.Meeting.Presences

/-!
# Calm runs

A run is calm if no session that somebody waits for fails to open, if nobody
comes back while a session is still being opened for them, and if the meeting is
told of no event while it is being closed. In a calm run the openings in flight,
the marks, the sessions and the presences of all participants stay in step:
whoever lacks a session has been paused, and nobody else has. So everybody's
presence follows an orderly course.
-/

namespace MeetingLog

open MeetingLog.Calendar
open MeetingLog.Files

/-! ## Participants in step -/

/-- `participant.IsInStep isAwaited isClosed isPaused` means that what is kept
about the participant agrees with whether a session is being opened for them,
and with whether the meeting is being closed or the group is paused. -/
structure Participant.IsInStep (isAwaited : Prop) (isClosed isPaused : Bool)
    (participant : Participant) : Prop where
  marked : isAwaited → participant.isOpening = true
  alone : participant.isOpening = true → participant.session = none
  active : participant.lacksSession = false → participant.presence = .active
  idle :
    isClosed = false → participant.lacksSession = true →
      participant.presence = .idle
  awake : isPaused = false → participant.presence = .active

namespace Participant

theorem lacksSession_iff {participant : Participant} :
    participant.lacksSession = true ↔
      participant.session = none ∧ participant.isOpening = false := by
  rw [lacksSession, Bool.and_eq_true, Option.isNone_iff_eq_none,
    Bool.not_eq_true']

theorem lacksSession_of_isOpening {participant : Participant}
    (isOpening : participant.isOpening = true) :
    participant.lacksSession = false := by
  rw [lacksSession, isOpening, Bool.not_true, Bool.and_false]

theorem isOpening_of_lacksSession {participant : Participant}
    (none : participant.session = none)
    (served : participant.lacksSession = false) :
    participant.isOpening = true := by
  rw [lacksSession, none, Option.isNone_none, Bool.true_and] at served
  rwa [Bool.not_eq_false'] at served

theorem lacksSession_of_session {participant : Participant}
    (listens : participant.session.isSome = true) :
    participant.lacksSession = false := by
  obtain ⟨session, held⟩ := Option.isSome_iff_exists.1 listens
  rw [lacksSession, held, Option.isNone_some, Bool.false_and]

namespace IsInStep

variable {isAwaited isAwaitedLater : Prop} {isClosed isClosedLater : Bool}
variable {isPaused : Bool} {participant changed : Participant}

/-- Openings may come to an end, and the meeting may be closed. -/
theorem mono (inStep : participant.IsInStep isAwaited isClosed isPaused)
    (fewer : isAwaitedLater → isAwaited)
    (closes : isClosedLater = false → isClosed = false) :
    participant.IsInStep isAwaitedLater isClosedLater isPaused where
  marked awaited := inStep.marked (fewer awaited)
  alone := inStep.alone
  active := inStep.active
  idle isOpen := inStep.idle (closes isOpen)
  awake := inStep.awake

/-- Nothing but the mark, the session and the presence counts. -/
theorem congr (inStep : participant.IsInStep isAwaited isClosed isPaused)
    (sameMark : changed.isOpening = participant.isOpening)
    (sameSession : changed.session = participant.session)
    (samePresence : changed.presence = participant.presence) :
    changed.IsInStep isAwaited isClosed isPaused := by
  have same : changed.lacksSession = participant.lacksSession := by
    rw [lacksSession, lacksSession, sameMark, sameSession]
  constructor
  · rw [sameMark]
    exact inStep.marked
  · rw [sameMark, sameSession]
    exact inStep.alone
  · rw [same, samePresence]
    exact inStep.active
  · rw [same, samePresence]
    exact inStep.idle
  · rw [samePresence]
    exact inStep.awake

theorem ofNew (isAwaited : Prop) (isClosed isPaused : Bool)
    (identity name : String) (joinedAt : ClockTime) (elapsed : Nat) :
    (Participant.new identity name joinedAt elapsed).beginOpening.IsInStep
      isAwaited isClosed isPaused where
  marked _ := rfl
  alone _ := rfl
  active _ := rfl
  idle _ lacks := by cases lacks
  awake _ := rfl

/-- Somebody who lacks a session wakes up and waits for one. -/
theorem wakeLacking (lacks : participant.lacksSession = true)
    (elapsed : Nat) :
    (participant.wake elapsed).IsInStep isAwaitedLater isClosed isPaused := by
  rw [wake, if_pos lacks]
  rw [lacksSession, Bool.and_eq_true, Option.isNone_iff_eq_none] at lacks
  exact
    { marked := fun _ => rfl
      alone := fun _ => lacks.1
      active := fun _ => rfl
      idle := fun _ lacksStill => by
        rw [lacksSession_of_isOpening rfl] at lacksStill
        cases lacksStill
      awake := fun _ => rfl }

/-- Somebody who does not lack a session was active all the time. -/
theorem wakeServed
    (inStep : participant.IsInStep isAwaited isClosed isPaused)
    (served : participant.lacksSession = false) (elapsed : Nat)
    (isPausedLater : Bool) :
    (participant.wake elapsed).IsInStep isAwaited isClosed isPausedLater := by
  rw [wake, served, if_neg Bool.false_ne_true]
  exact
    { marked := inStep.marked
      alone := inStep.alone
      active := inStep.active
      idle := inStep.idle
      awake := fun _ => inStep.active served }

theorem attach (inStep : participant.IsInStep isAwaited isClosed isPaused)
    (awaited : isAwaited) (notAwaited : ¬ isAwaitedLater)
    (session : Session) :
    { participant.endOpening with session := some session }.IsInStep
      isAwaitedLater isClosed isPaused := by
  have wasActive : participant.presence = .active :=
    inStep.active (lacksSession_of_isOpening (inStep.marked awaited))
  exact
    { marked := fun awaitedLater => absurd awaitedLater notAwaited
      alone := fun isOpening => by cases isOpening
      active := fun _ => wasActive
      idle := fun _ lacks => by
        rw [lacksSession_of_session rfl] at lacks
        cases lacks
      awake := fun _ => wasActive }

theorem hush (inStep : participant.IsInStep isAwaited isClosed isPaused) :
    participant.hush.IsInStep isAwaited isClosed true := by
  rw [Participant.hush]
  split
  · next listens =>
      have notOpening : ¬ participant.isOpening = true := by
        intro isOpening
        rw [inStep.alone isOpening] at listens
        cases listens
      exact
        { marked := inStep.marked
          alone := fun _ => rfl
          active := fun served =>
            absurd (isOpening_of_lacksSession rfl served) notOpening
          idle := fun _ _ => rfl
          awake := fun notPaused => Bool.noConfusion notPaused }
  · exact
      { marked := inStep.marked
        alone := inStep.alone
        active := inStep.active
        idle := inStep.idle
        awake := fun notPaused => Bool.noConfusion notPaused }

theorem release (inStep : participant.IsInStep isAwaited true isPaused) :
    participant.release.IsInStep isAwaited true isPaused where
  marked := inStep.marked
  alone _ := rfl
  active served := by
    have isOpening :=
      isOpening_of_lacksSession (session_release participant) served
    exact inStep.active (lacksSession_of_isOpening isOpening)
  idle isOpen := Bool.noConfusion isOpen
  awake := inStep.awake

end IsInStep

end Participant

namespace Meeting

variable {meeting after : Meeting} {move : Move}

/-- Those for whom a session is being opened. -/
def awaited (meeting : Meeting) : List String :=
  meeting.openings.map Opening.identity

/-- `meeting.isPatient move` means that the move does not bring anybody back for
whom a session is still being opened. -/
def isPatient (meeting : Meeting) : Move → Bool
  | .handle (.joined identity _) =>
      meeting.isClosed || meeting.participants.contains identity ||
        !meeting.awaited.contains identity
  | .tell (.joined identity _) =>
      meeting.participants.contains identity ||
        !meeting.awaited.contains identity
  | _ => true

/-- `meeting.disappoints move` means that the move reports to a participant that
a session could not be opened. -/
def disappoints (meeting : Meeting) : Move → Bool
  | .finishOpening ticket (.failed _) =>
      (meeting.opening? ticket).any fun opening =>
        opening.isBegun && meeting.participants.contains opening.identity
  | _ => false

/-- `isCalm meeting move` means that the move neither reports to a participant
that a session could not be opened, nor brings anybody back for whom one is
still being opened, nor tells a meeting that is being closed of an event. -/
def isCalm (meeting : Meeting) (move : Move) : Bool :=
  meeting.listensTo move && meeting.isPatient move &&
    !meeting.disappoints move

/-- `staysCalm meeting moves` means that all moves, done one after another, are
calm. -/
def staysCalm (meeting : Meeting) : List Move → Bool
  | [] => true
  | move :: moves =>
      meeting.isCalm move && (meeting.perform move).staysCalm moves

/-- `meeting.IsInStep` means that no two sessions are being opened for anybody,
and that everybody is in step. -/
structure IsInStep (meeting : Meeting) : Prop where
  once : meeting.awaited.Nodup
  everybody : ∀ identity participant,
    meeting.participants.get? identity = some participant →
      participant.IsInStep (identity ∈ meeting.awaited) meeting.isClosed
        meeting.isPaused

theorem awaited_beginOpening (meeting : Meeting) (opening : Opening) :
    (meeting.beginOpening opening).awaited = meeting.awaited := by
  show (meeting.openings.map (markBegun opening.ticket)).map
    Opening.identity = meeting.openings.map Opening.identity
  rw [List.map_map]
  refine List.map_congr_left fun other _ => ?_
  rw [Function.comp_apply, markBegun]
  split <;> rfl

/-- No session is being opened for somebody who comes with a patient move. -/
theorem not_mem_awaited_of_isPatient (patient : meeting.isPatient move = true)
    {identity : String} {name : Option String}
    (hears : meeting.Hears move (.joined identity name))
    (absent : meeting.participants.get? identity = none) :
    identity ∉ meeting.awaited := by
  rcases hears with rfl | ⟨rfl, isOpen⟩
  · simpa [isPatient, absent, Table.contains] using patient
  · simpa [isPatient, isOpen, absent, Table.contains] using patient

/-- Nobody else waits once an opening is over. -/
theorem awaited_dropOpening_sublist (ticket : Nat) :
    (meeting.dropOpening ticket).awaited.Sublist meeting.awaited :=
  List.filter_sublist.map _

/-- The participant does not wait any more once their only opening is over. -/
theorem not_mem_awaited_dropOpening (once : meeting.awaited.Nodup)
    {ticket : Nat} {opening : Opening}
    (found : meeting.opening? ticket = some opening) :
    opening.identity ∉ (meeting.dropOpening opening.ticket).awaited := by
  intro member
  obtain ⟨other, left, same⟩ := List.mem_map.1 member
  obtain ⟨inFlight, different⟩ := List.mem_filter.1 left
  obtain rfl := List.inj_on_of_nodup_map once inFlight
    (List.mem_of_find?_eq_some found) same
  exact of_decide_eq_true different rfl

theorem mem_awaited_of_opening? {ticket : Nat} {opening : Opening}
    (found : meeting.opening? ticket = some opening) :
    opening.identity ∈ meeting.awaited :=
  List.mem_map_of_mem (List.mem_of_find?_eq_some found)

/-- `meeting.IsPrompt` means that no two sessions are being opened for anybody,
and that everybody for whom one is being opened has the mark. -/
structure IsPrompt (meeting : Meeting) : Prop where
  once : meeting.awaited.Nodup
  marked : meeting.participants.Holds fun identity participant =>
    identity ∈ meeting.awaited → participant.isOpening = true

/-- Whoever lacks a session does not wait for one. -/
theorem IsPrompt.not_mem_awaited (prompt : meeting.IsPrompt)
    {identity : String} {participant : Participant}
    (found : meeting.participants.get? identity = some participant)
    (lacks : participant.lacksSession = true) :
    identity ∉ meeting.awaited := by
  intro waits
  have isOpening := prompt.marked identity participant found waits
  rw [Participant.lacksSession_of_isOpening isOpening] at lacks
  cases lacks

namespace IsInStep

/-- Openings may come to an end, and the meeting may be closed. -/
theorem fewer (inStep : meeting.IsInStep)
    (sameParticipants : after.participants = meeting.participants)
    (fewerAwaited : after.awaited.Sublist meeting.awaited)
    (closes : after.isClosed = false → meeting.isClosed = false)
    (samePause : after.isPaused = meeting.isPaused) : after.IsInStep := by
  refine ⟨fewerAwaited.nodup inStep.once, ?_⟩
  rw [sameParticipants, samePause]
  exact Table.Holds.mono inStep.everybody fun _ _ fits =>
    fits.mono (fun awaited => fewerAwaited.subset awaited) closes

/-- All participants change in the same way, and no opening begins or ends. -/
theorem map (inStep : meeting.IsInStep) {change : Participant → Participant}
    (changed : after.participants =
      meeting.participants.map fun _ participant => change participant)
    (sameAwaited : after.awaited = meeting.awaited)
    (fits : ∀ (isAwaited : Prop) (participant : Participant),
      participant.IsInStep isAwaited meeting.isClosed meeting.isPaused →
        (change participant).IsInStep isAwaited after.isClosed
          after.isPaused) : after.IsInStep := by
  refine ⟨sameAwaited ▸ inStep.once, ?_⟩
  rw [changed, sameAwaited]
  exact Table.Holds.map inStep.everybody fun _ participant _ =>
    fits _ participant

/-- One participant is put in, and for nobody else an opening begins. -/
theorem insert (inStep : meeting.IsInStep) {key : String}
    {participant : Participant}
    (changed :
      after.participants = meeting.participants.insert key participant)
    (once : after.awaited.Nodup)
    (fewer : ∀ identity, identity ≠ key → identity ∈ after.awaited →
      identity ∈ meeting.awaited)
    (sameClosed : after.isClosed = meeting.isClosed)
    (samePause : after.isPaused = meeting.isPaused)
    (fits : participant.IsInStep (key ∈ after.awaited) meeting.isClosed
      meeting.isPaused) : after.IsInStep := by
  refine ⟨once, ?_⟩
  rw [changed, sameClosed, samePause]
  exact Table.Holds.insert inStep.everybody fits
    fun identity _ different kept => kept.mono (fewer identity different) id

theorem isPrompt (inStep : meeting.IsInStep) : meeting.IsPrompt :=
  ⟨inStep.once, fun identity participant found =>
    (inStep.everybody identity participant found).marked⟩

/-- Everybody who lacks a session wakes up and waits for one. -/
theorem wake (inStep : meeting.IsInStep)
    (changed : after.participants = meeting.participants.map
      fun _ participant => participant.wake meeting.elapsed)
    (moreAwaited : after.awaited =
      meeting.awaited ++ meeting.lacking meeting.participants.keys)
    (sameClosed : after.isClosed = meeting.isClosed) : after.IsInStep := by
  constructor
  · rw [moreAwaited]
    refine inStep.once.append
      (meeting.participants.keys_nodup.sublist List.filter_sublist) ?_
    intro identity waits lacksSession
    obtain ⟨sleeper, present, lacks⟩ := mem_lacking_keys.1 lacksSession
    exact inStep.isPrompt.not_mem_awaited present lacks waits
  · intro identity awakened present
    rw [changed, Table.get?_map, Option.map_eq_some_iff] at present
    obtain ⟨before, present, rfl⟩ := present
    cases lacks : before.lacksSession with
    | true => exact .wakeLacking lacks _
    | false =>
        have waitedBefore (awaited : identity ∈ after.awaited) :
            identity ∈ meeting.awaited := by
          rw [moreAwaited, List.mem_append] at awaited
          refine awaited.resolve_right fun lacksSession => ?_
          obtain ⟨same, presentToo, lacksToo⟩ :=
            mem_lacking_keys.1 lacksSession
          obtain rfl := Option.some.inj (present.symm.trans presentToo)
          rw [lacks] at lacksToo
          cases lacksToo
        rw [sameClosed]
        exact ((inStep.everybody identity before present).wakeServed lacks _
          _).mono waitedBefore id

/-- Whoever lacks a session in an open meeting does so because the group is
paused. -/
theorem isPaused (inStep : meeting.IsInStep)
    (isOpen : meeting.isClosed = false) {identity : String}
    {participant : Participant}
    (found : meeting.participants.get? identity = some participant)
    (lacks : participant.lacksSession = true) : meeting.isPaused = true := by
  have fits := inStep.everybody identity participant found
  by_contra notPaused
  have isActive := fits.awake (Bool.eq_false_of_not_eq_true notPaused)
  rw [fits.idle isOpen lacks] at isActive
  cases isActive

end IsInStep

/-- A calm move leaves everybody in step. -/
theorem Outcome.isInStep (inStep : meeting.IsInStep)
    (calm : meeting.isCalm move = true)
    (outcome : Outcome meeting move after) : after.IsInStep := by
  rw [isCalm, Bool.and_eq_true, Bool.and_eq_true] at calm
  obtain ⟨⟨listens, patient⟩, succeeds⟩ := calm
  cases outcome with
  | @joined _ identity name store files hears absent takes =>
      have notAwaited : identity ∉ meeting.awaited :=
        not_mem_awaited_of_isPatient patient hears absent
      have moreAwaited : (meeting.openings ++
          [Opening.mk meeting.nextTicket identity false]).map
            Opening.identity = meeting.awaited ++ [identity] :=
        List.map_append
      refine inStep.insert rfl ?_ (fun other different member => ?_) rfl rfl
        (.ofNew _ _ _ _ _ _ _)
      · rw [awaited, moreAwaited, ← List.concat_eq_append]
        exact inStep.once.concat notAwaited
      · rw [awaited, moreAwaited] at member
        simpa [different] using member
  | left => exact ⟨inStep.once, Table.Holds.erase inStep.everybody⟩
  | woken =>
      rw [requestOpenings_eq]
      refine inStep.wake rfl ?_ rfl
      rw [awaited, List.map_append, map_identity_requested]
      rfl
  | retried hears found lacks notPaused =>
      -- Without a pause nobody lacks a session, so nobody is tried again.
      rw [inStep.isPaused (hears.isClosed_eq listens) found lacks] at notPaused
      cases notPaused
  | spoken =>
      exact ⟨inStep.once, Table.Holds.modify inStep.everybody
        (fun _ fits => fits.congr rfl rfl rfl) fun _ _ _ kept => kept⟩
  | @openingBegun ticket opening found waiting =>
      have same := awaited_beginOpening meeting opening
      exact inStep.fewer rfl (same ▸ List.Sublist.refl _) id rfl
  | @openingFailed ticket opening reason found begun =>
      have absent : meeting.participants.get? opening.identity = none := by
        simpa [disappoints, found, begun, Table.contains] using succeeds
      have untouched : meeting.participants.modify opening.identity
          Participant.endOpening = meeting.participants := by
        rw [Table.modify, absent]
      exact inStep.fewer untouched (awaited_dropOpening_sublist _) id rfl
  | attached found begun tracked held =>
      have fits := (inStep.everybody _ _ tracked).attach
        (mem_awaited_of_opening? found)
        (not_mem_awaited_dropOpening inStep.once found)
      exact inStep.insert rfl
        ((awaited_dropOpening_sublist _).nodup inStep.once)
        (fun _ _ member => (awaited_dropOpening_sublist _).subset member)
        rfl rfl (fits _)
  | discarded found begun tracked held =>
      -- Whoever waits for a session has none that could be in its way.
      have fits := inStep.everybody _ _ tracked
      have none := fits.alone (fits.marked (mem_awaited_of_opening? found))
      rw [none] at held
      cases held
  | orphaned =>
      exact inStep.fewer rfl (awaited_dropOpening_sublist _) id rfl
  | paused =>
      exact inStep.map rfl rfl fun _ _ fits => fits.hush
  | collected isUnwound =>
      obtain ⟨isClosed, -⟩ := Bool.and_eq_true_iff.1 isUnwound
      refine inStep.map rfl rfl fun isAwaited participant fits => ?_
      show participant.release.IsInStep _ meeting.isClosed _
      rw [isClosed] at fits ⊢
      exact fits.release
  | stopped =>
      exact inStep.fewer rfl (.refl _) (fun isOpen => Bool.noConfusion isOpen)
        rfl
  | abandoned => exact inStep.fewer rfl (List.nil_sublist _) id rfl
  | finished =>
      rw [finish_eq]
      exact ⟨inStep.once, inStep.everybody⟩
  | _ => exact ⟨inStep.once, inStep.everybody⟩

theorem start_isInStep {options : MeetingOptions}
    {storeOptions : StoreOptions} {files : FileTree} {began : Moment}
    {begun : Meeting}
    (started :
      (Meeting.new options storeOptions files began).start =
        (begun, .ok ())) : begun.IsInStep := by
  obtain ⟨-, rfl⟩ := start_ok started
  refine ⟨List.nodup_nil, fun identity participant found => ?_⟩
  rw [Meeting.new, Table.get?_empty] at found
  cases found

/-- Where everybody is in step, whoever is woken up was paused and whoever is
paused was not. -/
theorem IsInStep.isOrderly (inStep : meeting.IsInStep)
    (keyed : meeting.IsKeyed) (listens : meeting.listensTo move = true) :
    meeting.isOrderly move = true := by
  rw [Meeting.isOrderly, Bool.and_eq_true]
  constructor
  · cases wakes : meeting.wakes move with
    | false => rfl
    | true =>
        obtain ⟨-, other, sleeper, hears, -⟩ := wakes_iff.1 wakes
        have isOpen := hears.isClosed_eq listens
        refine List.all_eq_true.2 fun participant member => ?_
        cases lacks : participant.lacksSession with
        | false => rfl
        | true =>
            have found := (mem_values_iff keyed participant).1 member
            rw [(inStep.everybody _ participant found).idle isOpen lacks]
            rfl
  · have active : meeting.listeners.all (fun participant =>
        participant.presence == .active) = true := by
      refine List.all_eq_true.2 fun participant member => ?_
      obtain ⟨found, listens⟩ :=
        (mem_listeners_iff keyed participant).1 member
      rw [(inStep.everybody _ participant found).active
        (Participant.lacksSession_of_session listens)]
      rfl
    rw [active, Bool.or_true]

/-- A calm run is orderly. -/
theorem IsInStep.staysOrderly {moves : List Move} (inStep : meeting.IsInStep)
    (keyed : meeting.IsKeyed) (taken : meeting.takesAll moves = true)
    (calm : meeting.staysCalm moves = true) :
    meeting.staysOrderly moves = true := by
  induction moves generalizing meeting with
  | nil => rfl
  | cons move others inductionHypothesis =>
      rw [takesAll, Bool.and_eq_true] at taken
      rw [staysCalm, Bool.and_eq_true] at calm
      have outcome := perform_outcome keyed taken.1
      have listens : meeting.listensTo move = true := by
        rw [isCalm, Bool.and_eq_true, Bool.and_eq_true] at calm
        exact calm.1.1.1
      rw [Meeting.staysOrderly, Bool.and_eq_true]
      exact ⟨inStep.isOrderly keyed listens,
        inductionHypothesis (outcome.isInStep inStep calm.1)
          (outcome.isKeyed keyed) taken.2 calm.2⟩

/-- The presence of every participant follows a loose course. It follows an
orderly course exactly if whoever is woken up was paused and whoever is paused
was not, which is so in every calm run. -/
theorem presences_follow_courses {options : MeetingOptions}
    {storeOptions : StoreOptions} {files : FileTree} {began : Moment}
    {begun : Meeting}
    (started :
      (Meeting.new options storeOptions files began).start =
        (begun, .ok ())) {moves : List Move}
    (taken : begun.takesAll moves = true) :
    (∀ identity, Course.Begins
      (kindsOf identity (begun.performAll moves).records) Course.loose) ∧
    ((∀ identity, Course.Begins
        (kindsOf identity (begun.performAll moves).records) Course.orderly) ↔
      begun.staysOrderly moves = true) ∧
    (begun.staysCalm moves = true →
      ∀ identity, Course.Begins
        (kindsOf identity (begun.performAll moves).records)
        Course.orderly) := by
  have keyed : begun.IsKeyed := (start_follows started true).1
  have loosely : (begun.performAll moves).Follows true :=
    performAll_follows_loosely keyed (start_follows started true).2 taken
  have orderly :
      (∀ identity, Course.Begins
          (kindsOf identity (begun.performAll moves).records)
          Course.orderly) ↔
        begun.staysOrderly moves = true := by
    simp only [Course.begins_orderly_iff]
    exact performAll_followed_iff keyed (start_follows started false).2 taken
  refine ⟨fun identity => ?_, orderly, fun calm => ?_⟩
  · exact Course.begins_loose_iff.2 ⟨_, loosely identity⟩
  · exact orderly.2 ((start_isInStep started).staysOrderly keyed taken calm)

/-- A meeting that was not started yet, which is paused after a minute of
silence. -/
def resting : Meeting :=
  Meeting.new ⟨some 60000, 60000, 10000, Provider.deepgram.settings "de"⟩
    ⟨"standup", "deepgram", .records, false, Text.bytesOf "logs",
      Date.epoch.atTime .midnight⟩
    (FileTree.empty .epoch) (Date.epoch.atTime .midnight)

/-- Somebody says nothing for too long, and their audio comes back. -/
def comingRound : List Move :=
  [.handle (.joined "ada" none), .beginOpening 0,
    .finishOpening 0 (.opened "first"), .tick 60000, .checkIdle,
    .handle (.trackSubscribed "ada")]

theorem presences_follow_courses_of_comingRound :
    let ended := resting.start.1.performAll comingRound
    resting.start = (resting.start.1, .ok ()) ∧
      resting.start.1.takesAll comingRound = true ∧
      resting.start.1.staysCalm comingRound = true ∧
      kindsOf "ada" ended.records = [.joined, .paused, .resumed] ∧
      Course.Begins (kindsOf "ada" ended.records) Course.orderly := by
  have started : resting.start = (resting.start.1, .ok ()) :=
    Prod.ext rfl (by decide +kernel)
  have taken : resting.start.1.takesAll comingRound = true := by
    decide +kernel
  have calm : resting.start.1.staysCalm comingRound = true := by
    decide +kernel
  obtain ⟨-, -, calmly⟩ := presences_follow_courses started taken
  exact ⟨started, taken, calm, by decide +kernel, calmly calm "ada"⟩

/-- Two join, and a session for one of them cannot be opened. The other says
nothing for too long, and then the audio of the first comes back. -/
def failingOnce : List Move :=
  [.handle (.joined "ada" none), .handle (.joined "bob" none),
    .beginOpening 0, .beginOpening 1, .finishOpening 0 (.opened "first"),
    .finishOpening 1 (.failed "refused"), .tick 60000, .checkIdle,
    .handle (.trackSubscribed "bob")]

/-- Somebody comes back before their first session has been opened, which then
is opened during a pause. -/
def openingLate : List Move :=
  [.handle (.joined "ada" none), .handle (.left "ada"),
    .handle (.joined "ada" none), .beginOpening 0, .beginOpening 1,
    .finishOpening 1 (.opened "second"), .tick 60000, .checkIdle,
    .finishOpening 0 (.opened "first"), .checkIdle]

/-- Somebody for whom no session could be opened is woken up without having been
paused, and somebody who gets a session during a pause is paused twice. -/
theorem presences_of_failingOnce_and_openingLate_are_disorderly :
    let failed := resting.start.1.performAll failingOnce
    let late := resting.start.1.performAll openingLate
    resting.start = (resting.start.1, .ok ()) ∧
      (resting.start.1.takesAll failingOnce = true ∧
        kindsOf "bob" failed.records = [.joined, .resumed] ∧
        ¬ Course.Begins (kindsOf "bob" failed.records) Course.orderly) ∧
      resting.start.1.takesAll openingLate = true ∧
        kindsOf "ada" late.records =
          [.joined, .left, .joined, .paused, .paused] ∧
        ¬ Course.Begins (kindsOf "ada" late.records) Course.orderly := by
  intro failed late
  have woken : kindsOf "bob" failed.records = [.joined, .resumed] := by
    decide +kernel
  have pausedTwice : kindsOf "ada" late.records =
      [.joined, .left, .joined, .paused, .paused] := by
    decide +kernel
  refine ⟨Prod.ext rfl (by decide +kernel),
    ⟨by decide +kernel, woken, ?_⟩, by decide +kernel, pausedTwice, ?_⟩
  · rw [woken, Course.begins_orderly_iff]
    rintro ⟨state, followed⟩
    cases followed
  · rw [pausedTwice, Course.begins_orderly_iff]
    rintro ⟨state, followed⟩
    cases followed

end Meeting

end MeetingLog
