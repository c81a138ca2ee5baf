import MeetingLog.Proofs.Meeting.Calm
import MeetingLog.Proofs.Meeting.Custody
import MeetingLog.Proofs.Meeting.Refusals

/-!
# What is lost when a record is refused

A move that breaks off because a record is refused may forget a session, which
nobody has any more and nobody will ever ask to close, or leave somebody with
the mark of a session being opened although none is. It is said here exactly
which sessions and which participants that happens to.
-/

namespace MeetingLog.Meeting

open MeetingLog.Calendar
open MeetingLog.Files
open scoped List

variable {recorder : Recorder} {meeting after : Meeting} {move : Move}

/-- What a move does, whether its records are taken or not. -/
inductive Passage (recorder : Recorder) (meeting : Meeting) (move : Move)
    (after : Meeting) : Prop
  | taken : Effect recorder meeting move after →
      Passage recorder meeting move after
  | refused : Refusal meeting move after →
      Passage recorder meeting move after

theorem perform_passage (keyed : meeting.IsKeyed) (move : Move)
    (recorder : Recorder) :
    Passage recorder meeting move (meeting.perform move recorder) := by
  cases taken : meeting.takes move recorder with
  | true => exact .taken (perform_effect keyed taken)
  | false => exact .refused (perform_refusal keyed taken)

theorem IsKeyed.changedAmong (keyed : meeting.IsKeyed)
    {identities : List String} {change : Participant → Participant}
    (equality :
      after.participants =
        Meeting.changedAmong meeting.participants identities change)
    (kept : ∀ participant,
      (change participant).identity = participant.identity) :
    after.IsKeyed := by
  intro identity found member
  rw [equality, Meeting.changedAmong, Table.get?_map,
    Option.map_eq_some_iff] at member
  obtain ⟨participant, tracked, rfl⟩ := member
  have same := keyed identity participant tracked
  split
  · rw [kept, same]
  · exact same

theorem Refusal.isKeyed (keyed : meeting.IsKeyed)
    (refusal : Refusal meeting move after) : after.IsKeyed := by
  cases refusal with
  | joining => exact keyed
  | leaving => exact keyed.erase rfl
  | waking => exact keyed.changedAmong rfl (Participant.identity_wake _)
  | speaking => exact keyed.modify rfl fun _ => rfl
  | pausing => exact keyed.changedAmong rfl fun _ => rfl

theorem Passage.isKeyed (keyed : meeting.IsKeyed)
    (passage : Passage recorder meeting move after) : after.IsKeyed := by
  cases passage with
  | taken effect => exact effect.isKeyed keyed
  | refused refusal => exact refusal.isKeyed keyed

/-- What holds before a run, and after every move whether its records are taken
or not, holds after the run. -/
theorem performEach_induction {motive : Meeting → Prop} {begun : Meeting}
    (keyed : begun.IsKeyed) (base : motive begun)
    {steps : List (Move × Recorder)}
    (kept : ∀ step ∈ steps, ∀ meeting after : Meeting,
      meeting.IsKeyed → motive meeting →
        Passage step.2 meeting step.1 after → motive after) :
    (begun.performEach steps).IsKeyed ∧ motive (begun.performEach steps) := by
  induction steps generalizing begun with
  | nil => exact ⟨keyed, base⟩
  | cons step later inductionHypothesis =>
      have passage := perform_passage keyed step.1 step.2
      apply inductionHypothesis (passage.isKeyed keyed)
      · exact kept step List.mem_cons_self _ _ keyed base passage
      · intro other member
        exact kept other (List.mem_cons_of_mem _ member)

/-! ## Forgotten sessions -/

/-- The sessions that a move forgets when it breaks off after the store has
taken some of its records. -/
def forgotten (meeting : Meeting) (move : Move) (taken : Nat) :
    List Farewell :=
  match move with
  | .handle (.left identity) | .tell (.left identity) =>
      (meeting.participants.get? identity).toList.flatMap farewellOf
  | .checkIdle => (meeting.listeners.take (taken + 1)).flatMap farewellOf
  | .checkRegularly => (meeting.listeners.take (taken + 1)).flatMap farewellOf
  | _ => []

/-- An event makes a meeting forget nothing but the session of somebody who
leaves. -/
theorem Hears.forgotten_eq {event : RoomEvent}
    (hears : meeting.Hears move event) (taken : Nat) :
    meeting.forgotten move taken =
      match event with
      | .left identity =>
          (meeting.participants.get? identity).toList.flatMap farewellOf
      | _ => [] := by
  rcases hears with rfl | ⟨rfl, -⟩
  · cases event <;> rfl
  · cases event <;> rfl

theorem sessionsOf_changedAmong_same (participants : Table String Participant)
    (identities : List String) {change : Participant → Participant}
    (same : ∀ participant,
      farewellOf (change participant) = farewellOf participant) :
    sessionsOf (changedAmong participants identities change) =
      sessionsOf participants := by
  rw [sessionsOf_eq, sessionsOf_eq, changedAmong, Table.map,
    List.flatMap_map]
  apply List.flatMap_congr
  intro entry _
  by_cases member : entry.1 ∈ identities
  · simp [member, same]
  · simp [member]

/-- Those who fall silent lose their sessions, and nobody else does. -/
theorem sessionsOf_fallSilent {gone : List Participant} :
    ∀ {participants : Table String Participant},
      (∀ participant ∈ gone,
        participants.get? participant.identity = some participant) →
      (gone.map (·.identity)).Nodup →
      sessionsOf participants ~
        gone.flatMap farewellOf ++
          sessionsOf (changedAmong participants (gone.map (·.identity))
            Participant.fallSilent) := by
  induction gone with
  | nil =>
      intro participants _ _
      simp
  | cons participant others inductionHypothesis =>
      intro participants tracked distinct
      obtain ⟨notLater, othersDistinct⟩ := List.nodup_cons.1 distinct
      have found := tracked participant List.mem_cons_self
      have othersTracked : ∀ other ∈ others,
          (participants.insert participant.identity
            participant.fallSilent).get? other.identity = some other := by
        intro other member
        have different : other.identity ≠ participant.identity := by
          intro same
          apply notLater
          exact List.mem_map.2 ⟨other, member, same⟩
        rw [Table.get?_insert_of_ne _ different]
        exact tracked other (List.mem_cons_of_mem _ member)
      have silenced := sessionsOf_insert participants participant.identity
        participant.fallSilent
      rw [farewellOf_none rfl, List.nil_append] at silenced
      rw [List.map_cons, changedAmong_cons_of_found found _ notLater,
        List.flatMap_cons, List.append_assoc]
      calc sessionsOf participants
        _ ~ farewellOf participant ++
              sessionsOf (participants.erase participant.identity) :=
          sessionsOf_found found
        _ ~ farewellOf participant ++
              sessionsOf (participants.insert participant.identity
                participant.fallSilent) :=
          silenced.symm.append_left _
        _ ~ _ :=
          (inductionHypothesis othersTracked othersDistinct).append_left _

theorem HandsOn.lose {lost : List Farewell}
    (fewer :
      (sessionsOf meeting.participants).Perm
        (lost ++ sessionsOf after.participants))
    (sameCalls : after.calls = meeting.calls)
    (sameFarewells : after.farewells = meeting.farewells)
    (sameLeaving : after.leaving = meeting.leaving)
    (sameNumber : after.nextSession = meeting.nextSession) :
    HandsOn meeting after { lost := lost } where
  placed := List.perm_append_comm.trans fewer.symm
  farewells := by simpa using sameFarewells
  leaving := by simp [sameLeaving]
  opened := by simp [openedSessions, sameCalls]
  asked := by simp [askedSessions, sameCalls]
  nextNumber := sameNumber
  numbered := rfl

/-- A move that breaks off hands nothing over. It forgets sessions instead. -/
theorem Refusal.handsOn (keyed : meeting.IsKeyed)
    (refusal : Refusal meeting move after) :
    HandsOn meeting after
      { lost :=
          meeting.forgotten move
            (after.records.length - meeting.records.length) } := by
  cases refusal with
  | joining hears =>
      rw [hears.forgotten_eq]
      exact .lose (.refl _) rfl rfl rfl rfl
  | leaving hears found =>
      rw [hears.forgotten_eq]
      refine HandsOn.lose ?_ rfl rfl rfl rfl
      simpa [found] using sessionsOf_found found
  | waking hears =>
      rw [hears.forgotten_eq]
      refine HandsOn.lose ?_ rfl rfl rfl rfl
      exact .of_eq (sessionsOf_changedAmong_same _ _ (farewellOf_wake _)).symm
  | speaking hears =>
      rw [hears.forgotten_eq]
      refine HandsOn.lose ?_ rfl rfl rfl rfl
      apply List.Perm.symm
      exact sessionsOf_modify _ _ fun _ => rfl
  | @pausing timeout count store files trace failure isCheck limit silent fewer =>
      refine HandsOn.lose ?_ rfl rfl rfl rfl
      have taken : (meeting.records ++
          (meeting.listeners.take count).map (pausedRecord meeting.clock)
            ).length - meeting.records.length = count := by
        simp
        omega
      have gone : meeting.forgotten move count =
          (meeting.listeners.take (count + 1)).flatMap farewellOf := by
        rcases isCheck with rfl | rfl <;> rfl
      rw [taken, gone]
      apply sessionsOf_fallSilent
      · intro participant member
        exact ((mem_listeners_iff keyed participant).1
          (List.mem_of_mem_take member)).1
      · rw [List.map_take]
        exact (listeners_identity_nodup keyed).sublist
          (List.take_sublist _ _)

theorem Passage.handsOn (keyed : meeting.IsKeyed)
    (passage : Passage recorder meeting move after) :
    ∃ transfer, HandsOn meeting after transfer := by
  cases passage with
  | taken effect =>
      obtain ⟨transfer, handsOn, -⟩ := effect.handsOn keyed
      exact ⟨transfer, handsOn⟩
  | refused refusal => exact ⟨_, refusal.handsOn keyed⟩

/-- The accounts of a run. What has been lost or dropped stays so. -/
theorem performEach_isAccountedBut {begun : Meeting}
    {lost dropped : List Farewell} (keyed : begun.IsKeyed)
    (accounted : begun.IsAccountedBut lost dropped)
    (steps : List (Move × Recorder)) :
    (begun.performEach steps).IsKeyed ∧
      ∃ lostLater droppedLater,
        (begun.performEach steps).IsAccountedBut (lost ++ lostLater)
          (dropped ++ droppedLater) := by
  refine performEach_induction
    (motive := fun meeting => ∃ lostLater droppedLater,
      meeting.IsAccountedBut (lost ++ lostLater) (dropped ++ droppedLater))
    keyed ?_ ?_
  · exact ⟨[], [], by simpa using accounted⟩
  · intro step _ meeting after stillKeyed held passage
    obtain ⟨lostLater, droppedLater, stillAccounted⟩ := held
    obtain ⟨transfer, handsOn⟩ := passage.handsOn stillKeyed
    refine ⟨lostLater ++ transfer.lost, droppedLater ++ transfer.dropped, ?_⟩
    rw [← List.append_assoc, ← List.append_assoc]
    exact handsOn.isAccountedBut stillAccounted

theorem mem_askedSessions {identity : String} {session : Session}
    (asked : .askedClose identity session ∈ meeting.calls) :
    ⟨identity, session⟩ ∈ meeting.askedSessions :=
  List.mem_filterMap.2 ⟨_, asked, rfl⟩

/-- Nobody has a lost session, and nobody was asked to close it. -/
theorem IsAccountedBut.isLost {lost dropped : List Farewell}
    (accounted : meeting.IsAccountedBut lost dropped)
    (keyed : meeting.IsKeyed) {identity : String} {session : Session}
    (member : ⟨identity, session⟩ ∈ lost) (other : String) :
    ¬ meeting.IsAttached other session ∧
      ⟨other, session⟩ ∉ meeting.farewells ∧
      .askedClose other session ∉ meeting.calls := by
  have distinct := accounted.distinct
  rw [(accounted.held.map _).nodup_iff, List.map_append, List.map_append,
    List.nodup_append, List.nodup_append] at distinct
  obtain ⟨-, ⟨-, -, apart⟩, apartToo⟩ := distinct
  have lostNumber : session.number ∈
      lost.map fun farewell => farewell.session.number :=
    List.mem_map.2 ⟨_, member, rfl⟩
  have notHandedOver : ⟨other, session⟩ ∉ meeting.farewells := by
    intro handed
    exact apart _ (List.mem_map.2 ⟨_, handed, rfl⟩) _ lostNumber rfl
  refine ⟨?_, notHandedOver, ?_⟩
  · intro attached
    have held := (mem_sessionsOf_iff keyed other session).2 attached
    exact apartToo _ (List.mem_map.2 ⟨_, held, rfl⟩) _
      (List.mem_append_right _ lostNumber) rfl
  · intro asked
    apply notHandedOver
    rw [accounted.asked.mem_iff]
    apply List.mem_append_right
    exact List.mem_append_left _ (mem_askedSessions asked)

/-! ## Stranded participants -/

/-- `isMarked meeting identity` means that the participant has the mark of a
session being opened. -/
def isMarked (meeting : Meeting) (identity : String) : Bool :=
  (meeting.participants.get? identity).any Participant.isOpening

/-- `IsStranded meeting identity` means that the participant has the mark of a
session being opened although none is. -/
def IsStranded (meeting : Meeting) (identity : String) : Prop :=
  meeting.isMarked identity = true ∧ identity ∉ meeting.awaited

/-- Those who are left with the mark alone when a move breaks off after the
store has taken some of its records. -/
def leftMarked (meeting : Meeting) (move : Move) (taken : Nat) :
    List String :=
  match move with
  | .handle (.trackSubscribed _) | .tell (.trackSubscribed _) =>
      ((meeting.lacking meeting.participants.keys).take (taken + 1)).filter
        fun identity => !meeting.awaited.contains identity
  | _ => []

/-- An event leaves nobody marked but those that an audio track has woken up. -/
theorem Hears.leftMarked_eq {event : RoomEvent}
    (hears : meeting.Hears move event) (taken : Nat) :
    meeting.leftMarked move taken =
      match event with
      | .trackSubscribed _ =>
          ((meeting.lacking meeting.participants.keys).take
            (taken + 1)).filter fun identity =>
              !meeting.awaited.contains identity
      | _ => [] := by
  rcases hears with rfl | ⟨rfl, -⟩
  · cases event <;> rfl
  · cases event <;> rfl

theorem isMarked_of_absent {identity : String}
    (absent : meeting.participants.get? identity = none) :
    meeting.isMarked identity = false := by
  rw [isMarked, absent]
  rfl

theorem not_isMarked_of_lacksSession {identity : String}
    {participant : Participant}
    (found : meeting.participants.get? identity = some participant)
    (lacks : participant.lacksSession = true) :
    meeting.isMarked identity = false := by
  rw [isMarked, found, Option.any_some]
  exact (Participant.lacksSession_iff.1 lacks).2

theorem isMarked_insert {identity : String} {participant : Participant}
    (equality :
      after.participants =
        meeting.participants.insert identity participant)
    (other : String) :
    after.isMarked other =
      if other = identity then participant.isOpening
      else meeting.isMarked other := by
  rw [isMarked, equality, Table.get?_insert]
  split <;> rfl

theorem isMarked_insert_of_ne {identity other : String}
    {participant : Participant}
    (equality :
      after.participants =
        meeting.participants.insert identity participant)
    (different : other ≠ identity) :
    after.isMarked other = meeting.isMarked other := by
  rw [isMarked_insert equality, if_neg different]

/-- Who has the mark after one participant was put is that one, or had it
before. -/
theorem isMarked_of_insert {identity other : String}
    {participant : Participant}
    (equality :
      after.participants =
        meeting.participants.insert identity participant)
    (marked : after.isMarked other = true) :
    other = identity ∧ participant.isOpening = true ∨
      other ≠ identity ∧ meeting.isMarked other = true := by
  rw [isMarked_insert equality] at marked
  split at marked
  · next same => exact .inl ⟨same, marked⟩
  · next different => exact .inr ⟨different, marked⟩

theorem isMarked_erase {identity : String}
    (equality : after.participants = meeting.participants.erase identity)
    (other : String) :
    after.isMarked other =
      if other = identity then false else meeting.isMarked other := by
  rw [isMarked, equality, Table.get?_erase]
  split <;> rfl

theorem isMarked_map (change : Participant → Participant)
    (equality :
      after.participants =
        meeting.participants.map fun _ participant => change participant)
    {identity : String}
    (kept : ∀ participant,
      meeting.participants.get? identity = some participant →
        (change participant).isOpening = participant.isOpening) :
    after.isMarked identity = meeting.isMarked identity := by
  rw [isMarked, isMarked, equality, Table.get?_map]
  cases found : meeting.participants.get? identity with
  | none => rfl
  | some participant => exact kept participant found

theorem isMarked_modify {identity other : String}
    {change : Participant → Participant}
    (equality :
      after.participants = meeting.participants.modify identity change)
    (kept : other = identity →
      ∀ participant, (change participant).isOpening =
        participant.isOpening) :
    after.isMarked other = meeting.isMarked other := by
  rw [isMarked, isMarked, equality, Table.get?_modify]
  by_cases same : other = identity
  · rw [if_pos same, same, Option.any_map]
    congr
    funext participant
    exact kept same participant
  · rw [if_neg same]

theorem isMarked_changedAmong {identities : List String}
    (change : Participant → Participant)
    (equality :
      after.participants =
        changedAmong meeting.participants identities change)
    (identity : String) :
    after.isMarked identity =
      if identity ∈ identities then
        (meeting.participants.get? identity).any fun participant =>
          (change participant).isOpening
      else meeting.isMarked identity := by
  rw [isMarked, equality, changedAmong, Table.get?_map, Option.any_map]
  by_cases member : identity ∈ identities
  · simp [member]
  · simp [member, isMarked]

theorem isOpening_hush (participant : Participant) :
    participant.hush.isOpening = participant.isOpening := by
  unfold Participant.hush
  split <;> rfl

theorem isOpening_wake (elapsed : Nat) (participant : Participant) :
    (participant.wake elapsed).isOpening =
      (participant.isOpening || participant.lacksSession) := by
  unfold Participant.wake
  by_cases lacks : participant.lacksSession = true
  · rw [if_pos lacks, lacks, Bool.or_true]
    rfl
  · rw [if_neg lacks]
    simp [lacks]

theorem awaited_requestOpenings (meeting : Meeting)
    (identities : List String) :
    (meeting.requestOpenings identities).awaited =
      meeting.awaited ++ identities := by
  rw [requestOpenings_eq, awaited, List.map_append, map_identity_requested]
  rfl

theorem not_isMarked_of_mem_lacking {identity : String}
    (member : identity ∈ meeting.lacking meeting.participants.keys) :
    meeting.isMarked identity = false := by
  obtain ⟨participant, found, lacks⟩ := mem_lacking_keys.1 member
  exact not_isMarked_of_lacksSession found lacks

theorem IsStranded.ne {identity other : String}
    (stranded : meeting.IsStranded identity)
    (unmarked : meeting.isMarked other = false) : identity ≠ other := by
  rintro rfl
  rw [stranded.1] at unmarked
  cases unmarked

/-- Who is stranded stays so until they leave. -/
theorem Effect.isStranded {identity : String}
    (stays : move.event? ≠ some (.left identity))
    (stranded : meeting.IsStranded identity)
    (effect : Effect recorder meeting move after) :
    after.IsStranded identity := by
  have notWaited := stranded.2
  have notOpening {ticket : Nat} {opening : Opening}
      (found : meeting.opening? ticket = some opening) :
      identity ≠ opening.identity := by
    rintro rfl
    exact notWaited (mem_awaited_of_opening? found)
  have notWaitedLater (ticket : Nat) :
      identity ∉ (meeting.dropOpening ticket).awaited :=
    fun member =>
      notWaited ((awaited_dropOpening_sublist ticket).subset member)
  cases effect with
  | joined hears absent takes =>
      have different := stranded.ne (isMarked_of_absent absent)
      refine ⟨(isMarked_insert_of_ne rfl different).trans stranded.1, ?_⟩
      simpa [awaited, different] using notWaited
  | @left _ other participant store files hears found takes =>
      have different : identity ≠ other := by
        rintro rfl
        exact stays hears.event?_eq
      refine ⟨?_, notWaited⟩
      rw [isMarked_erase rfl, if_neg different]
      exact stranded.1
  | woken hears found lacks isPaused takes =>
      refine ⟨?_, ?_⟩
      · rw [requestOpenings_eq]
        refine Eq.trans ?_ stranded.1
        apply isMarked_map (Participant.wake meeting.elapsed) rfl
        intro participant tracked
        have isOpening : participant.isOpening = true := by
          simpa [isMarked, tracked] using stranded.1
        rw [isOpening_wake, isOpening, Bool.true_or]
      · rw [awaited_requestOpenings]
        intro member
        rcases List.mem_append.1 member with earlier | woken
        · exact notWaited earlier
        · exact stranded.ne (not_isMarked_of_mem_lacking woken) rfl
  | retried hears found lacks isPaused =>
      have different :=
        stranded.ne (not_isMarked_of_lacksSession found lacks)
      refine ⟨(isMarked_insert_of_ne rfl different).trans stranded.1, ?_⟩
      simpa [awaited, different] using notWaited
  | spoken hears said takes =>
      refine ⟨?_, notWaited⟩
      refine Eq.trans ?_ stranded.1
      exact isMarked_modify rfl fun _ _ => rfl
  | openingBegun found waiting =>
      refine ⟨stranded.1, ?_⟩
      rw [awaited_beginOpening]
      exact notWaited
  | openingFailed found begun =>
      refine ⟨?_, notWaitedLater _⟩
      refine Eq.trans ?_ stranded.1
      exact isMarked_modify rfl fun same => absurd same (notOpening found)
  | attached found begun tracked none =>
      refine ⟨?_, notWaitedLater _⟩
      exact (isMarked_insert_of_ne rfl (notOpening found)).trans stranded.1
  | discarded found begun tracked held =>
      refine ⟨?_, notWaitedLater _⟩
      exact (isMarked_insert_of_ne rfl (notOpening found)).trans stranded.1
  | orphaned found begun absent => exact ⟨stranded.1, notWaitedLater _⟩
  | paused isCheck timeout silent takes =>
      refine ⟨?_, notWaited⟩
      refine Eq.trans ?_ stranded.1
      exact isMarked_map Participant.hush rfl fun participant _ =>
        isOpening_hush participant
  | abandoned isClosed => exact ⟨stranded.1, List.not_mem_nil⟩
  | collected isUnwound =>
      refine ⟨?_, notWaited⟩
      refine Eq.trans ?_ stranded.1
      exact isMarked_map Participant.release rfl fun _ _ => rfl
  | finished isCleared =>
      rw [finish_eq]
      exact stranded
  | _ => exact stranded

/-- Who is stranded after a move that broke off. -/
theorem Refusal.isStranded_iff {identity : String}
    (refusal : Refusal meeting move after) :
    after.IsStranded identity ↔
      meeting.IsStranded identity ∧ move.event? ≠ some (.left identity) ∨
        identity ∈ meeting.leftMarked move
          (after.records.length - meeting.records.length) := by
  cases refusal with
  | joining hears =>
      rw [hears.event?_eq, hears.leftMarked_eq]
      simp [IsStranded, isMarked, awaited]
  | @leaving other participant store files hears found =>
      rw [hears.event?_eq, hears.leftMarked_eq, IsStranded,
        isMarked_erase rfl]
      by_cases same : identity = other
      · simp [same]
      · have different : RoomEvent.left other ≠ .left identity := by
          simpa using Ne.symm same
        simp [same, different, IsStranded, awaited]
  | @waking other participant count store files hears found lacks isPaused
      fewer =>
      have taken : (meeting.records ++
          ((meeting.lacking meeting.participants.keys).take count).map
            (resumedRecord meeting.clock)).length -
              meeting.records.length = count := by
        simp
        omega
      rw [hears.event?_eq, taken, hears.leftMarked_eq, IsStranded,
        isMarked_changedAmong _ rfl, List.mem_filter]
      by_cases member : identity ∈
        (meeting.lacking meeting.participants.keys).take (count + 1)
      · -- Who is woken had no mark before.
        have lacking := List.mem_of_mem_take member
        obtain ⟨participant, tracked, lacksToo⟩ := mem_lacking_keys.1 lacking
        have unmarked := not_isMarked_of_mem_lacking lacking
        rw [if_pos member, tracked, Option.any_some, isOpening_wake, lacksToo]
        simp [IsStranded, unmarked, member, awaited]
      · rw [if_neg member]
        simp [IsStranded, member, awaited]
  | @speaking other spoken transcript store files hears said =>
      have same : Meeting.isMarked
          { meeting with
            participants :=
              meeting.participants.modify other
                (Participant.speak transcript meeting.elapsed) } identity =
            meeting.isMarked identity :=
        isMarked_modify rfl fun _ _ => rfl
      rw [hears.event?_eq, hears.leftMarked_eq]
      simp only [isMarked] at same
      simp [IsStranded, isMarked, same, awaited]
  | @pausing timeout count store files trace failure isCheck limit silent fewer =>
      have inCheck : move.event? ≠ some (.left identity) := by
        rcases isCheck with rfl | rfl <;> simp [Move.event?]
      have nobody (taken : Nat) : meeting.leftMarked move taken = [] := by
        rcases isCheck with rfl | rfl <;> rfl
      have same : ((meeting.participants.get? identity).any
          fun participant => participant.fallSilent.isOpening) =
            meeting.isMarked identity :=
        rfl
      rw [nobody, IsStranded, isMarked_changedAmong _ rfl, same, ite_self]
      simp [IsStranded, inCheck, awaited]

/-- Who is stranded stays so until they leave, whether records are taken or
not. -/
theorem Passage.isStranded {identity : String}
    (stays : move.event? ≠ some (.left identity))
    (stranded : meeting.IsStranded identity)
    (passage : Passage recorder meeting move after) :
    after.IsStranded identity := by
  cases passage with
  | taken effect => exact effect.isStranded stays stranded
  | refused refusal =>
      exact refusal.isStranded_iff.2 (Or.inl ⟨stranded, stays⟩)

theorem performEach_isStranded {begun : Meeting} (keyed : begun.IsKeyed)
    {identity : String} (stranded : begun.IsStranded identity)
    {steps : List (Move × Recorder)}
    (stays : ∀ step ∈ steps, step.1.event? ≠ some (.left identity)) :
    (begun.performEach steps).IsStranded identity := by
  refine (performEach_induction
    (motive := fun meeting => meeting.IsStranded identity)
    keyed stranded ?_).2
  intro step member meeting after _ stillStranded passage
  exact passage.isStranded (stays step member) stillStranded

/-! ## Marks and openings -/

theorem map_ticket_requested (identities : List String) (ticket : Nat) :
    (requested ticket identities).map Opening.ticket =
      List.range' ticket identities.length := by
  induction identities generalizing ticket with
  | nil => rfl
  | cons identity others inductionHypothesis =>
      rw [requested, List.map_cons, inductionHypothesis, List.length_cons,
        List.range'_succ]

/-- `IsServedUnless meeting givenUp` means that openings can be told apart by
their tickets, and that a session is being opened for everybody who has the
mark, unless what was in flight has been given up. -/
structure IsServedUnless (meeting : Meeting) (givenUp : Prop) : Prop where
  tickets : (meeting.openings.map Opening.ticket).Nodup
  below : ∀ opening ∈ meeting.openings, opening.ticket < meeting.nextTicket
  awaited : ∀ identity, meeting.isMarked identity = true →
    identity ∈ meeting.awaited ∨ givenUp

namespace IsServedUnless

variable {givenUp : Prop}

theorem mono (served : meeting.IsServedUnless givenUp) {later : Prop}
    (still : givenUp → later) : meeting.IsServedUnless later where
  tickets := served.tickets
  below := served.below
  awaited := fun identity marked =>
    (served.awaited identity marked).imp_right still

/-- The openings have the same tickets and are for the same participants, and
nobody has got the mark. -/
theorem keep (served : meeting.IsServedUnless givenUp)
    (sameTickets :
      after.openings.map Opening.ticket =
        meeting.openings.map Opening.ticket)
    (sameAwaited : after.awaited = meeting.awaited)
    (sameTicket : after.nextTicket = meeting.nextTicket)
    (marks : ∀ identity, after.isMarked identity = true →
      meeting.isMarked identity = true) : after.IsServedUnless givenUp where
  tickets := by
    rw [sameTickets]
    exact served.tickets
  below := by
    intro opening member
    have ticket := List.mem_map_of_mem member (f := Opening.ticket)
    rw [sameTickets] at ticket
    obtain ⟨earlier, among, same⟩ := List.mem_map.1 ticket
    rw [sameTicket, ← same]
    exact served.below earlier among
  awaited := by
    intro identity marked
    rw [sameAwaited]
    exact served.awaited identity (marks identity marked)

/-- More openings are asked for, for those who have got the mark. -/
theorem request (served : meeting.IsServedUnless givenUp)
    (identities : List String)
    (openings :
      after.openings =
        meeting.openings ++ requested meeting.nextTicket identities)
    (nextTicket :
      after.nextTicket = meeting.nextTicket + identities.length)
    (marks : ∀ identity, after.isMarked identity = true →
      meeting.isMarked identity = true ∨ identity ∈ identities) :
    after.IsServedUnless givenUp where
  tickets := by
    rw [openings, List.map_append, map_ticket_requested]
    apply List.Nodup.append served.tickets List.nodup_range'
    intro ticket member new
    obtain ⟨opening, earlier, rfl⟩ := List.mem_map.1 member
    have under := served.below opening earlier
    have above := (List.mem_range'_1.1 new).1
    omega
  below := by
    rw [openings, nextTicket]
    intro opening member
    rcases List.mem_append.1 member with earlier | new
    · exact Nat.lt_add_right _ (served.below opening earlier)
    · have ticket := List.mem_map_of_mem new (f := Opening.ticket)
      rw [map_ticket_requested, List.mem_range'_1] at ticket
      exact ticket.2
  awaited := by
    intro identity marked
    rw [Meeting.awaited, openings, List.map_append, map_identity_requested]
    rcases marks identity marked with earlier | new
    · exact (served.awaited identity earlier).imp_left
        (List.mem_append_left _)
    · exact Or.inl (List.mem_append_right _ new)

/-- One opening is asked for, and only the entry of its participant is
another. -/
theorem requestFor (served : meeting.IsServedUnless givenUp)
    {identity : String} {participant : Participant}
    (participants :
      after.participants =
        meeting.participants.insert identity participant)
    (openings :
      after.openings =
        meeting.openings ++ requested meeting.nextTicket [identity])
    (nextTicket : after.nextTicket = meeting.nextTicket + 1) :
    after.IsServedUnless givenUp := by
  refine served.request [identity] openings nextTicket fun other marked => ?_
  rcases isMarked_of_insert participants marked with
    ⟨same, -⟩ | ⟨-, earlier⟩
  · exact Or.inr (List.mem_singleton.2 same)
  · exact Or.inl earlier

/-- An opening is over, and its participant has lost the mark. -/
theorem drop (served : meeting.IsServedUnless givenUp) {ticket : Nat}
    {opening : Opening}
    (found : meeting.opening? ticket = some opening)
    (openings :
      after.openings = (meeting.dropOpening opening.ticket).openings)
    (sameTicket : after.nextTicket = meeting.nextTicket)
    (marks : ∀ identity, after.isMarked identity = true →
      meeting.isMarked identity = true ∧ identity ≠ opening.identity) :
    after.IsServedUnless givenUp where
  tickets := by
    rw [openings]
    exact served.tickets.sublist (List.filter_sublist.map _)
  below := by
    rw [openings, sameTicket]
    intro other member
    exact served.below other (List.mem_of_mem_filter member)
  awaited := by
    intro identity marked
    obtain ⟨earlier, different⟩ := marks identity marked
    refine (served.awaited identity earlier).imp_left fun waits => ?_
    obtain ⟨other, member, same⟩ := List.mem_map.1 waits
    rw [Meeting.awaited, openings]
    apply List.mem_map.2
    refine ⟨other, List.mem_filter.2 ⟨member, ?_⟩, same⟩
    -- Another opening has another ticket.
    apply decide_eq_true
    intro sameTicketToo
    apply different
    rw [← same, List.inj_on_of_nodup_map served.tickets member
      (List.mem_of_find?_eq_some found) sameTicketToo]

/-- An opening is over, and the new entry of its participant has no mark. -/
theorem settle (served : meeting.IsServedUnless givenUp) {ticket : Nat}
    {opening : Opening} {participant : Participant}
    (found : meeting.opening? ticket = some opening)
    (unmarked : participant.isOpening = false)
    (participants :
      after.participants =
        meeting.participants.insert opening.identity participant)
    (openings :
      after.openings = (meeting.dropOpening opening.ticket).openings)
    (sameTicket : after.nextTicket = meeting.nextTicket) :
    after.IsServedUnless givenUp := by
  refine served.drop found openings sameTicket fun other marked => ?_
  rcases isMarked_of_insert participants marked with
    ⟨-, isOpening⟩ | ⟨different, earlier⟩
  · cases unmarked.symm.trans isOpening
  · exact ⟨earlier, different⟩

end IsServedUnless

theorem tickets_beginOpening (meeting : Meeting) (opening : Opening) :
    (meeting.beginOpening opening).openings.map Opening.ticket =
      meeting.openings.map Opening.ticket := by
  show (meeting.openings.map (markBegun opening.ticket)).map
    Opening.ticket = meeting.openings.map Opening.ticket
  rw [List.map_map]
  refine List.map_congr_left fun other _ => ?_
  rw [Function.comp_apply, markBegun]
  split <;> rfl

theorem Effect.isServedUnless {givenUp : Prop}
    (gives : move = .abandonPending → meeting.isClosed = true → givenUp)
    (served : meeting.IsServedUnless givenUp)
    (effect : Effect recorder meeting move after) :
    after.IsServedUnless givenUp := by
  cases effect with
  | joined hears absent takes => exact served.requestFor rfl rfl rfl
  | left hears found takes =>
      refine served.keep rfl rfl rfl fun other marked => ?_
      rw [isMarked_erase rfl] at marked
      split at marked
      · cases marked
      · exact marked
  | woken hears found lacks isPaused takes =>
      rw [requestOpenings_eq]
      refine served.request _ rfl rfl fun other marked => ?_
      by_cases lacking : other ∈ meeting.lacking meeting.participants.keys
      · exact Or.inr lacking
      · left
        rwa [isMarked_map (Participant.wake meeting.elapsed) rfl] at marked
        intro participant tracked
        have served : participant.lacksSession = false := by
          simpa using fun lacks =>
            lacking (mem_lacking_keys.2 ⟨participant, tracked, lacks⟩)
        rw [isOpening_wake, served, Bool.or_false]
  | retried hears found lacks isPaused => exact served.requestFor rfl rfl rfl
  | spoken hears said takes =>
      refine served.keep rfl rfl rfl fun other marked => ?_
      refine Eq.trans (Eq.symm ?_) marked
      exact isMarked_modify rfl fun _ _ => rfl
  | openingBegun found waiting =>
      exact served.keep (tickets_beginOpening _ _)
        (awaited_beginOpening _ _) rfl fun _ marked => marked
  | @openingFailed ticket opening reason found begun =>
      refine served.drop found rfl rfl fun other marked => ?_
      by_cases same : other = opening.identity
      · simp [isMarked, same, Table.get?_modify, Option.any_map,
          Participant.endOpening] at marked
      · rw [isMarked_modify rfl fun equal => absurd equal same] at marked
        exact ⟨marked, same⟩
  | attached found begun tracked none =>
      exact served.settle found rfl rfl rfl rfl
  | discarded found begun tracked has =>
      exact served.settle found rfl rfl rfl rfl
  | @orphaned ticket opening name found begun absent =>
      refine served.drop found rfl rfl fun other marked => ?_
      refine ⟨marked, ?_⟩
      rintro rfl
      have unmarked := isMarked_of_absent absent
      cases unmarked.symm.trans marked
  | paused isCheck timeout silent takes =>
      refine served.keep rfl rfl rfl fun other marked => ?_
      rwa [isMarked_map Participant.hush rfl fun participant _ =>
        isOpening_hush participant] at marked
  | abandoned isClosed =>
      refine ⟨List.nodup_nil, ?_, fun _ _ => Or.inr (gives rfl isClosed)⟩
      intro opening member
      cases member
  | collected isUnwound =>
      refine served.keep rfl rfl rfl fun other marked => ?_
      rwa [isMarked_map Participant.release rfl fun _ _ => rfl] at marked
  | finished isCleared =>
      rw [finish_eq]
      exact served.keep rfl rfl rfl fun _ marked => marked
  | _ => exact served.keep rfl rfl rfl fun _ marked => marked

theorem start_isServed {options : MeetingOptions}
    {storeOptions : StoreOptions} {files : FileTree} {began : Moment}
    {begun : Meeting}
    (started :
      (Meeting.new options storeOptions files began).start =
        (begun, .ok ())) : begun.IsServedUnless False := by
  obtain ⟨-, rfl⟩ := start_ok started
  refine ⟨List.nodup_nil, ?_, ?_⟩
  · intro opening member
    cases member
  · intro identity marked
    cases marked

theorem performEach_isServed {steps : List (Move × Recorder)} :
    ∀ {begun : Meeting}, begun.IsKeyed → begun.IsServedUnless False →
      begun.takesEach steps = true →
      (∀ step ∈ steps, step.1 ≠ .abandonPending) →
      (begun.performEach steps).IsServedUnless False := by
  induction steps with
  | nil =>
      intro begun _ served _ _
      exact served
  | cons step later inductionHypothesis =>
      intro begun keyed served taken patient
      rw [takesEach, Bool.and_eq_true] at taken
      have effect := perform_effect keyed taken.1
      apply inductionHypothesis (effect.isKeyed keyed)
      · refine effect.isServedUnless (fun same _ => ?_) served
        exact patient step List.mem_cons_self same
      · exact taken.2
      · intro other member
        exact patient other (List.mem_cons_of_mem _ member)

/-! ## What a refused record costs -/

/-- What a refused record costs. Whatever was refused before, when a move breaks
off because the store refuses one of its records, nothing is handed over, and
everybody keeps their session but for those that the move forgets: the session
of somebody who leaves, and at an idle check those of the participants up to
the one whose record was refused. Nobody ever has a forgotten session again,
and it is never asked to close. Nobody is left with the mark of a session being
opened although none is, but for those who were before, and for those woken by
an audio track up to the one whose record was refused. They stay so until they
leave. A joining or an utterance that is refused costs nobody anything. -/
theorem refused_record_costs {options : MeetingOptions}
    {storeOptions : StoreOptions} {files : FileTree} {began : Moment}
    {begun : Meeting}
    (started :
      (Meeting.new options storeOptions files began).start =
        (begun, .ok ()))
    (earlier : List (Move × Recorder))
    (refused : (begun.performEach earlier).takes move recorder = false) :
    let before := begun.performEach earlier
    let after := before.perform move recorder
    let taken := after.records.length - before.records.length
    after.farewells = before.farewells ∧
    (∀ identity session, before.IsAttached identity session →
      (after.IsAttached identity session ↔
        ⟨identity, session⟩ ∉ before.forgotten move taken)) ∧
    (∀ identity session,
      ⟨identity, session⟩ ∈ before.forgotten move taken →
        before.IsAttached identity session ∧
        ∀ later other,
          ¬ (after.performEach later).IsAttached other session ∧
          ⟨other, session⟩ ∉ (after.performEach later).farewells ∧
          .askedClose other session ∉ (after.performEach later).calls) ∧
    (∀ identity, after.IsStranded identity ↔
      before.IsStranded identity ∧ move.event? ≠ some (.left identity) ∨
        identity ∈ before.leftMarked move taken) ∧
    (∀ identity, after.IsStranded identity → ∀ later,
      (∀ step ∈ later, step.1.event? ≠ some (.left identity)) →
        (after.performEach later).IsStranded identity) ∧
    (begun.takesEach earlier = true →
      (∀ step ∈ earlier, step.1 ≠ .abandonPending) →
        ∀ identity, ¬ before.IsStranded identity) := by
  intro before after taken
  obtain ⟨keyed, accounted, -⟩ := start_invariants started
  obtain ⟨keyedBefore, lost, dropped, accountedBefore⟩ :=
    performEach_isAccountedBut keyed (isAccountedBut_nil_iff.2 accounted)
      earlier
  have refusal : Refusal before move after :=
    perform_refusal keyedBefore refused
  have keyedAfter : after.IsKeyed := refusal.isKeyed keyedBefore
  have handsOn := refusal.handsOn keyedBefore
  have accountedAfter := handsOn.isAccountedBut accountedBefore
  have placed (identity : String) (session : Session) :
      after.IsAttached identity session ∨
          ⟨identity, session⟩ ∈ before.forgotten move taken ↔
        before.IsAttached identity session := by
    rw [← mem_sessionsOf_iff keyedAfter, ← mem_sessionsOf_iff keyedBefore]
    simpa using handsOn.placed.mem_iff
  have isForgotten (identity : String) (session : Session)
      (member : ⟨identity, session⟩ ∈ before.forgotten move taken)
      (later : List (Move × Recorder)) (other : String) :
      ¬ (after.performEach later).IsAttached other session ∧
        ⟨other, session⟩ ∉ (after.performEach later).farewells ∧
        .askedClose other session ∉ (after.performEach later).calls := by
    obtain ⟨keyedLater, lostLater, droppedLater, accountedLater⟩ :=
      performEach_isAccountedBut keyedAfter accountedAfter later
    apply accountedLater.isLost keyedLater
    apply List.mem_append_left
    exact List.mem_append_right _ member
  refine ⟨?_, ?_, ?_, ?_, ?_, ?_⟩
  · exact handsOn.farewells.trans (List.append_nil _)
  · intro identity session attached
    constructor
    · intro attachedAfter member
      exact (isForgotten identity session member [] identity).1 attachedAfter
    · intro notForgotten
      exact ((placed identity session).2 attached).resolve_right notForgotten
  · intro identity session member
    exact ⟨(placed identity session).1 (Or.inr member),
      isForgotten identity session member⟩
  · intro identity
    exact refusal.isStranded_iff
  · intro identity stranded later stays
    exact performEach_isStranded keyedAfter stranded stays
  · intro takenBefore patient identity stranded
    have served := performEach_isServed keyed (start_isServed started)
      takenBefore patient
    exact stranded.2 ((served.awaited identity stranded.1).resolve_right id)

/-- A recorder whose store refuses whatever is recorded about one
participant. -/
def refusing (identity : String) : Recorder := fun store files record =>
  if record.participant = identity then ⟨store, files, [], .error .notOpen⟩
  else store.appendCore files record

/-- Two join and get sessions, and then say nothing for a minute. -/
def fallingSilent : List (Move × Recorder) :=
  [(.handle (.joined "ada" none), Store.appendCore),
    (.handle (.joined "bob" none), Store.appendCore),
    (.beginOpening 0, Store.appendCore), (.beginOpening 1, Store.appendCore),
    (.finishOpening 0 (.opened "first"), Store.appendCore),
    (.finishOpening 1 (.opened "second"), Store.appendCore),
    (.tick 60000, Store.appendCore)]

/-- Both sessions are forgotten although the store took the first record. -/
theorem refused_record_costs_of_fallingSilent :
    let before := resting.start.1.performEach fallingSilent
    let after := before.perform .checkIdle (refusing "bob")
    resting.start = (resting.start.1, .ok ()) ∧
      before.takes .checkIdle (refusing "bob") = false ∧
      after.records.length = before.records.length + 1 ∧
      before.IsAttached "ada" ⟨0, "first"⟩ ∧
      before.IsAttached "bob" ⟨1, "second"⟩ ∧
      (∀ later other,
        .askedClose other ⟨0, "first"⟩ ∉ (after.performEach later).calls ∧
        .askedClose other ⟨1, "second"⟩ ∉
          (after.performEach later).calls) ∧
      ∀ identity, ¬ after.IsStranded identity := by
  intro before after
  have started : resting.start = (resting.start.1, .ok ()) :=
    Prod.ext rfl (by decide +kernel)
  have refused : before.takes .checkIdle (refusing "bob") = false := by
    decide +kernel
  have counted : after.records.length = before.records.length + 1 := by
    decide +kernel
  have taken : after.records.length - before.records.length = 1 := by
    rw [counted]
    exact Nat.add_sub_cancel_left _ _
  have gone : before.forgotten .checkIdle 1 =
      [⟨"ada", ⟨0, "first"⟩⟩, ⟨"bob", ⟨1, "second"⟩⟩] := by
    decide +kernel
  obtain ⟨-, -, forgotten, stranded, -, calm⟩ :=
    refused_record_costs started fallingSilent refused
  rw [taken, gone] at forgotten
  obtain ⟨ada, adaLost⟩ := forgotten "ada" ⟨0, "first"⟩ (by decide)
  obtain ⟨bob, bobLost⟩ := forgotten "bob" ⟨1, "second"⟩ (by decide)
  refine ⟨started, refused, counted, ada, bob, ?_, ?_⟩
  · intro later other
    exact ⟨(adaLost later other).2.2, (bobLost later other).2.2⟩
  · intro identity strandedAfter
    rcases (stranded identity).1 strandedAfter with ⟨earlier, -⟩ | left
    · exact calm (by decide +kernel) (by decide) identity earlier
    · cases left

/-- Once the store of a meeting was finalized by somebody else, sessions are
forgotten when somebody leaves and when the group is silent, and an audio track
leaves a mark behind without a session being opened. -/
theorem finalized_store_costs_sessions :
    let joined := resting.start.1.performAll
      [.handle (.joined "ada" none), .beginOpening 0,
        .finishOpening 0 (.opened "first")]
    let before := (joined.finalizeStore joined.now).1
    let departed := before.perform (.handle (.left "ada"))
    let silent := before.tick 60000
    let checked := silent.perform .checkIdle
    let paused := (joined.tick 60000).perform .checkIdle
    let stopped := (paused.finalizeStore paused.now).1
    let woken := stopped.perform (.handle (.trackSubscribed "ada"))
    (before.takes (.handle (.left "ada")) = false ∧
      before.IsAttached "ada" ⟨0, "first"⟩ ∧
      ¬ departed.IsAttached "ada" ⟨0, "first"⟩ ∧
      ⟨"ada", ⟨0, "first"⟩⟩ ∉ departed.farewells) ∧
    (silent.takes .checkIdle = false ∧
      silent.IsAttached "ada" ⟨0, "first"⟩ ∧
      ¬ checked.IsAttached "ada" ⟨0, "first"⟩ ∧
      ⟨"ada", ⟨0, "first"⟩⟩ ∉ checked.farewells) ∧
    stopped.takes (.handle (.trackSubscribed "ada")) = false ∧
      woken.isMarked "ada" = true ∧ woken.openings = [] := by
  decide +kernel

end MeetingLog.Meeting
