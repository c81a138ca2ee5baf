import MeetingLog.Proofs.Meeting.Losses

/-!
# Waiting for a session

Whoever has the mark of a session being opened waits for an opening in flight.
The mark comes with an opening, and every opening for a participant that comes
to an end takes the mark away, however many of them are in flight. So nobody
keeps the mark with nothing to wait for, as long as the meeting is not being
closed: an audio track of somebody without a session finds an opening in flight
or asks for one.
-/

namespace MeetingLog.Meeting

open MeetingLog.Files
open MeetingLog.Calendar

variable {recorder : Recorder} {meeting after : Meeting} {move : Move}
variable {options : MeetingOptions} {storeOptions : StoreOptions}
variable {files : FileTree} {began : Moment} {begun : Meeting}
variable {moves : List Move}

/-! ## What is in flight after a run -/

theorem Effect.staysClosed (effect : Effect recorder meeting move after)
    (isClosed : meeting.isClosed = true) : after.isClosed = true := by
  cases effect with
  | woken =>
      rw [requestOpenings_eq]
      exact isClosed
  | stopped => rfl
  | finished =>
      rw [finish_eq]
      exact isClosed
  | _ => exact isClosed

/-- Everybody with the mark is served, until a meeting that is being closed gives
up what is in flight. -/
theorem reached_isServedUnless
    (started :
      (Meeting.new options storeOptions files began).start =
        (begun, .ok ()))
    (taken : begun.takesAll moves = true) :
    (begun.performAll moves).IsServedUnless
      ((begun.performAll moves).isClosed = true) := by
  refine performAll_induction
    (motive := fun _ meeting =>
      meeting.IsServedUnless (meeting.isClosed = true))
    (start_isKeyed started) ((start_isServed started).mono False.elim) taken ?_
  intro done move meeting after _ _ served outcome
  refine outcome.isServedUnless ?_ (served.mono outcome.staysClosed)
  intro _ isClosed
  exact outcome.staysClosed isClosed

theorem reached_isServed
    (started :
      (Meeting.new options storeOptions files began).start =
        (begun, .ok ()))
    (taken : begun.takesAll moves = true)
    (isOpen : (begun.performAll moves).isClosed = false) :
    (begun.performAll moves).IsServedUnless False := by
  refine (reached_isServedUnless started taken).mono fun isClosed => ?_
  rw [isOpen] at isClosed
  cases isClosed

/-- Openings are found by their tickets. -/
theorem IsServedUnless.opening?_eq {givenUp : Prop}
    (served : meeting.IsServedUnless givenUp) {opening : Opening}
    (member : opening ∈ meeting.openings) :
    meeting.opening? opening.ticket = some opening := by
  cases found : meeting.opening? opening.ticket with
  | none =>
      have notFound := List.find?_eq_none.1 found opening member
      simp at notFound
  | some other =>
      have same : other.ticket = opening.ticket := by
        simpa using List.find?_some found
      rw [List.inj_on_of_nodup_map served.tickets
        (List.mem_of_find?_eq_some found) member same]

/-- Openings in flight are found by their tickets after every run. -/
theorem reached_opening?_eq
    (started :
      (Meeting.new options storeOptions files began).start =
        (begun, .ok ()))
    (taken : begun.takesAll moves = true) {opening : Opening}
    (member : opening ∈ (begun.performAll moves).openings) :
    (begun.performAll moves).opening? opening.ticket = some opening :=
  (reached_isServedUnless started taken).opening?_eq member

/-! ## What an audio track asks for -/

/-- Those for whom an audio track of a tracked participant asks for openings. -/
def askedForBy (meeting : Meeting) (participant : Participant) : List String :=
  if participant.lacksSession then
    if meeting.isPaused then meeting.lacking meeting.participants.keys
    else [participant.identity]
  else []

theorem Effect.openings_trackSubscribed (keyed : meeting.IsKeyed)
    {identity : String}
    (hears : meeting.Hears move (.trackSubscribed identity))
    {participant : Participant}
    (tracked : meeting.participants.get? identity = some participant)
    (effect : Effect recorder meeting move after) :
    after.openings =
      meeting.openings ++
        requested meeting.nextTicket (meeting.askedForBy participant) := by
  have same := keyed identity participant tracked
  cases effect with
  | nothing always => exact absurd always hears.alwaysApplies
  | dropped isClosed => exact absurd isClosed hears.not_isClosed
  | trackUnknown hearsToo absent =>
      obtain rfl := RoomEvent.trackSubscribed.inj (hears.unique hearsToo)
      rw [absent] at tracked
      cases tracked
  | trackServed hearsToo present served =>
      obtain rfl := RoomEvent.trackSubscribed.inj (hears.unique hearsToo)
      obtain rfl := Option.some.inj (tracked.symm.trans present)
      rw [askedForBy, served]
      exact (List.append_nil _).symm
  | woken hearsToo present lacks isPaused =>
      obtain rfl := RoomEvent.trackSubscribed.inj (hears.unique hearsToo)
      obtain rfl := Option.some.inj (tracked.symm.trans present)
      rw [requestOpenings_eq, askedForBy, if_pos lacks, if_pos isPaused]
  | retried hearsToo present lacks notPaused =>
      obtain rfl := RoomEvent.trackSubscribed.inj (hears.unique hearsToo)
      obtain rfl := Option.some.inj (tracked.symm.trans present)
      rw [askedForBy, if_pos lacks, notPaused, same]
      rfl
  | joinedAgain hearsToo => cases hears.unique hearsToo
  | joined hearsToo => cases hears.unique hearsToo
  | leftUnknown hearsToo => cases hears.unique hearsToo
  | left hearsToo => cases hears.unique hearsToo
  | blank hearsToo => cases hears.unique hearsToo
  | spoken hearsToo => cases hears.unique hearsToo
  | paused isCheck => exact absurd isCheck hears.not_isCheck
  | _ => cases hears.event?_eq

/-- A session that has been opened becomes the session of a participant who is
tracked and has none. -/
theorem get?_finishOpening (keyed : meeting.IsKeyed) {ticket : Nat}
    {opening : Opening} (found : meeting.opening? ticket = some opening)
    (begun : opening.isBegun = true) {participant : Participant}
    (tracked :
      meeting.participants.get? opening.identity = some participant)
    (none : participant.session = none) (name : String) :
    (meeting.perform (.finishOpening ticket (.opened name))).participants.get?
        opening.identity =
      some { participant.endOpening with
        session := some ⟨meeting.nextSession, name⟩ } := by
  have same := keyed opening.identity participant tracked
  have free : participant.session.isNone = true := by
    rw [none]
    rfl
  have trackedStill :
      (((meeting.dropOpening opening.ticket).newSession name).1.call
        (.opened opening.identity
          ⟨meeting.nextSession, name⟩)).participant? opening.identity =
        some participant :=
    tracked
  simp only [perform, found, begun, if_true, finishOpening]
  rw [attach, show ((meeting.dropOpening opening.ticket).newSession name).2 =
    ⟨meeting.nextSession, name⟩ from rfl, trackedStill]
  simp only [free, if_true, putParticipant, Participant.endOpening, same]
  exact Table.get?_insert_self _ _ _

/-! ## Nobody waits in vain -/

/-- Nobody waits in vain for a session. Until the meeting is being closed, one
is being opened for everybody who has the mark. An audio track of somebody
without a session asks for nothing if they have the mark, and then an opening is
in flight for them; and otherwise it asks for exactly one opening for them,
besides those for others if it wakes up the group. And whenever an opening for
somebody without a session succeeds, they have that session. -/
theorem nobody_waits_in_vain {options : MeetingOptions}
    {storeOptions : StoreOptions} {files : FileTree} {began : Moment}
    {begun : Meeting}
    (started :
      (Meeting.new options storeOptions files began).start =
        (begun, .ok ()))
    {moves : List Move} (taken : begun.takesAll moves = true)
    (isOpen : (begun.performAll moves).isClosed = false) :
    let reached := begun.performAll moves
    (∀ identity participant,
      reached.participant? identity = some participant →
      participant.isOpening = true →
        ∃ opening ∈ reached.openings, opening.identity = identity) ∧
    (∀ identity participant,
      reached.participant? identity = some participant →
      participant.session = none →
      reached.takes (.handle (.trackSubscribed identity)) = true →
        ∃ more,
          (reached.perform (.handle (.trackSubscribed identity))).openings =
            reached.openings ++ more ∧
          (participant.isOpening = true → more = []) ∧
          (participant.isOpening = false →
            (more.map Opening.identity).count identity = 1)) ∧
    (∀ opening ∈ reached.openings, opening.isBegun = true →
      ∀ participant,
        reached.participant? opening.identity = some participant →
        participant.session = none →
          ∀ name,
            (reached.perform (.finishOpening opening.ticket
              (.opened name))).IsAttached opening.identity
                ⟨reached.nextSession, name⟩) := by
  intro reached
  have keyed := reached_isKeyed started taken
  have served := reached_isServed started taken isOpen
  refine ⟨?_, ?_, ?_⟩
  · intro identity participant tracked isOpening
    have marked : reached.isMarked identity = true := by
      rw [isMarked, show reached.participants.get? identity =
        some participant from tracked]
      exact isOpening
    exact List.mem_map.1 ((served.awaited identity marked).resolve_right id)
  · intro identity participant tracked none takes
    have same := keyed identity participant tracked
    have effect := perform_effect keyed takes
    have hears : reached.Hears (.handle (.trackSubscribed identity))
        (.trackSubscribed identity) :=
      Or.inr ⟨rfl, isOpen⟩
    refine ⟨_, effect.openings_trackSubscribed keyed hears tracked, ?_, ?_⟩
    · intro isOpening
      rw [askedForBy, Participant.lacksSession_of_isOpening isOpening]
      rfl
    · intro notOpening
      have lacks : participant.lacksSession = true := by
        rw [Participant.lacksSession, none, notOpening]
        rfl
      rw [map_identity_requested, askedForBy, if_pos lacks]
      split
      · exact List.count_eq_one_of_mem
          (reached.participants.keys_nodup.sublist List.filter_sublist)
          (mem_lacking_keys.2 ⟨participant, tracked, lacks⟩)
      · rw [same]
        exact List.count_singleton_self
  · intro opening member begun participant tracked none name
    exact ⟨_, get?_finishOpening keyed (served.opening?_eq member) begun
      tracked none name, rfl⟩

/-- Somebody comes back while a session is being opened for them, and the first
of the two openings in flight fails. -/
def failingFirst : List Move :=
  [.handle (.joined "ada" none), .handle (.left "ada"),
    .handle (.joined "ada" none), .beginOpening 0, .beginOpening 1,
    .finishOpening 0 (.failed "refused")]

/-- The mark is gone although an opening is in flight, which may still succeed,
and an audio track asks for another one. -/
theorem nobody_waits_in_vain_of_failingFirst :
    let begun := resting.start.1
    let track := Move.handle (.trackSubscribed "ada")
    let reached := begun.performAll failingFirst
    let retried := begun.performAll (failingFirst ++ [track])
    resting.start = (begun, .ok ()) ∧
      begun.takesAll (failingFirst ++ [track]) = true ∧
      retried.isClosed = false ∧
      reached.openings = [⟨1, "ada", true⟩] ∧
      reached.isMarked "ada" = false ∧ retried.isMarked "ada" = true ∧
      (∃ more, (reached.perform track).openings = reached.openings ++ more ∧
        (more.map Opening.identity).count "ada" = 1) ∧
      (∃ opening ∈ retried.openings, opening.identity = "ada") ∧
      (reached.perform (.finishOpening 1 (.opened "late"))).IsAttached "ada"
        ⟨0, "late"⟩ := by
  intro begun track reached retried
  have started : resting.start = (begun, .ok ()) :=
    Prod.ext rfl (by decide +kernel)
  obtain ⟨takenFirst, taken, takes, openFirst, stillOpen⟩ :
      begun.takesAll failingFirst = true ∧
      begun.takesAll (failingFirst ++ [track]) = true ∧
      reached.takes track = true ∧
      reached.isClosed = false ∧ retried.isClosed = false := by
    decide +kernel
  obtain ⟨ada, waiting, inFlight, unmarked, marked, number⟩ :
      reached.participant? "ada" =
        some (.new "ada" "ada" .midnight 0) ∧
      retried.participant? "ada" =
        some (Participant.new "ada" "ada" .midnight 0).beginOpening ∧
      reached.openings = [⟨1, "ada", true⟩] ∧
      reached.isMarked "ada" = false ∧ retried.isMarked "ada" = true ∧
      reached.nextSession = 0 := by
    decide +kernel
  obtain ⟨-, asks, succeeds⟩ :=
    nobody_waits_in_vain started takenFirst openFirst
  obtain ⟨finds, -, -⟩ := nobody_waits_in_vain started taken stillOpen
  obtain ⟨more, asked, -, once⟩ := asks "ada" _ ada rfl takes
  have member : ⟨1, "ada", true⟩ ∈ reached.openings := by
    rw [inFlight]
    exact List.mem_singleton_self _
  have attached := succeeds _ member rfl _ ada rfl "late"
  rw [number] at attached
  exact ⟨started, taken, stillOpen, inFlight, unmarked, marked,
    ⟨more, asked, once rfl⟩, finds "ada" _ waiting rfl, attached⟩

end MeetingLog.Meeting
