import Mathlib.Data.List.Nodup
import MeetingLog.Proofs.Meeting.Runs

/-!
# Custody of sessions

Every session that was opened is in the custody of one participant, or has been
handed over to be closed, and never both. As nothing of what is handed over is
given up, a session that was handed over is asked to close once.
-/

namespace MeetingLog.Meeting

open MeetingLog.Calendar
open MeetingLog.Files
open scoped List

variable {meeting : Meeting}

/-! ## Sessions of participants -/

def sessionsOf (participants : Table String Participant) : List Farewell :=
  participants.values.flatMap farewellOf

theorem sessionsOf_eq (participants : Table String Participant) :
    sessionsOf participants =
      participants.entries.flatMap fun entry => farewellOf entry.2 := by
  rw [sessionsOf, Table.values, List.flatMap_map]

theorem sessionsOf_found {participants : Table String Participant}
    {identity : String} {participant : Participant}
    (found : participants.get? identity = some participant) :
    (sessionsOf participants).Perm
      (farewellOf participant ++ sessionsOf (participants.erase identity)) := by
  rw [sessionsOf_eq, sessionsOf_eq]
  exact (Table.entries_perm found).flatMap_right _

theorem sessionsOf_insert (participants : Table String Participant)
    (identity : String) (participant : Participant) :
    (sessionsOf (participants.insert identity participant)).Perm
      (farewellOf participant ++ sessionsOf (participants.erase identity)) := by
  rw [sessionsOf_eq, sessionsOf_eq]
  exact (Table.insert_entries_perm _ _ _).flatMap_right _

theorem sessionsOf_insert_new {participants : Table String Participant}
    {identity : String} (absent : participants.get? identity = none)
    (participant : Participant) :
    (sessionsOf (participants.insert identity participant)).Perm
      (farewellOf participant ++ sessionsOf participants) := by
  have inserted := sessionsOf_insert participants identity participant
  rwa [Table.erase_eq_self absent] at inserted

/-- Putting in a participant with the same session changes no custody. -/
theorem sessionsOf_insert_same {participants : Table String Participant}
    {identity : String} {participant : Participant}
    (found : participants.get? identity = some participant)
    {changed : Participant}
    (same : farewellOf changed = farewellOf participant) :
    (sessionsOf (participants.insert identity changed)).Perm
      (sessionsOf participants) := by
  refine (sessionsOf_insert participants identity changed).trans ?_
  rw [same]
  exact (sessionsOf_found found).symm

theorem sessionsOf_modify (participants : Table String Participant)
    (identity : String) {change : Participant → Participant}
    (same : ∀ participant,
      farewellOf (change participant) = farewellOf participant) :
    (sessionsOf (participants.modify identity change)).Perm
      (sessionsOf participants) := by
  unfold Table.modify
  cases found : participants.get? identity with
  | none => exact .refl _
  | some participant => exact sessionsOf_insert_same found (same participant)

theorem sessionsOf_map (participants : Table String Participant)
    (change : Participant → Participant) :
    sessionsOf (participants.map fun _ participant => change participant) =
      participants.values.flatMap fun participant =>
        farewellOf (change participant) := by
  rw [sessionsOf_eq, Table.values, List.flatMap_map]
  exact List.flatMap_map _ _ _

theorem sessionsOf_map_same (participants : Table String Participant)
    {change : Participant → Participant}
    (same : ∀ participant,
      farewellOf (change participant) = farewellOf participant) :
    sessionsOf (participants.map fun _ participant => change participant) =
      sessionsOf participants := by
  rw [sessionsOf_map, sessionsOf]
  exact List.flatMap_congr fun participant _ => same participant

theorem sessionsOf_map_none (participants : Table String Participant)
    {change : Participant → Participant}
    (none : ∀ participant, (change participant).session = none) :
    sessionsOf (participants.map fun _ participant => change participant) =
      [] := by
  rw [sessionsOf_map, List.flatMap_eq_nil_iff]
  intro participant _
  rw [farewellOf, none]

theorem farewellOf_none {participant : Participant}
    (none : participant.session = none) :
    farewellOf participant = [] := by
  rw [farewellOf, none]

theorem farewellOf_some {participant : Participant} {session : Session}
    (held : participant.session = some session) :
    farewellOf participant = [⟨participant.identity, session⟩] := by
  rw [farewellOf, held]

theorem farewellOf_wake (elapsed : Nat) (participant : Participant) :
    farewellOf (participant.wake elapsed) = farewellOf participant := by
  rw [farewellOf, farewellOf, Participant.session_wake,
    Participant.identity_wake]

/-! ## Calls -/

def openedBy : Call → Option Farewell
  | .opened identity session => some ⟨identity, session⟩
  | _ => none

def askedBy : Call → Option Farewell
  | .askedClose identity session => some ⟨identity, session⟩
  | _ => none

/-- The sessions that have been opened, the oldest first, with the participants
they were opened for. -/
def openedSessions (meeting : Meeting) : List Farewell :=
  meeting.calls.filterMap openedBy

/-- The sessions that have been asked to close, as often as they were asked. -/
def askedSessions (meeting : Meeting) : List Farewell :=
  meeting.calls.filterMap askedBy

theorem mem_openedSessions (meeting : Meeting) (identity : String)
    (session : Session) :
    ⟨identity, session⟩ ∈ meeting.openedSessions ↔
      Call.opened identity session ∈ meeting.calls := by
  rw [openedSessions, List.mem_filterMap]
  constructor
  · rintro ⟨call, member, opened⟩
    cases call <;> simp only [openedBy, reduceCtorEq] at opened
    obtain ⟨rfl, rfl⟩ := Farewell.mk.inj (Option.some.inj opened)
    exact member
  · intro member
    exact ⟨_, member, rfl⟩

theorem openedSessions_append {after : Meeting} {call : Call}
    (calls : after.calls = meeting.calls ++ [call]) :
    after.openedSessions =
      meeting.openedSessions ++ (openedBy call).toList := by
  rw [openedSessions, calls, List.filterMap_append]
  cases call <;> rfl

theorem askedSessions_append {after : Meeting} {call : Call}
    (calls : after.calls = meeting.calls ++ [call]) :
    after.askedSessions = meeting.askedSessions ++ (askedBy call).toList := by
  rw [askedSessions, calls, List.filterMap_append]
  cases call <;> rfl

/-! ## Accounts -/

/-- `IsAccounted meeting` means that every session that was opened is either
held by a participant or was handed over, and that every session that was
handed over is either leaving or has been asked to close. -/
structure IsAccounted (meeting : Meeting) : Prop where
  held :
    meeting.openedSessions.Perm
      (sessionsOf meeting.participants ++ meeting.farewells)
  asked : meeting.farewells.Perm (meeting.leaving ++ meeting.askedSessions)
  numbered : ∀ farewell ∈ meeting.openedSessions,
    farewell.session.number < meeting.nextSession
  distinct :
    (meeting.openedSessions.map fun farewell =>
      farewell.session.number).Nodup

/-- `IsAccountedBut meeting lost dropped` means the same, but for sessions that
nobody has although they were not handed over, and others that were handed over
and then given up. -/
structure IsAccountedBut (meeting : Meeting) (lost dropped : List Farewell) :
    Prop where
  held :
    meeting.openedSessions.Perm
      (sessionsOf meeting.participants ++ (meeting.farewells ++ lost))
  asked :
    meeting.farewells.Perm
      (meeting.leaving ++ (meeting.askedSessions ++ dropped))
  numbered : ∀ farewell ∈ meeting.openedSessions,
    farewell.session.number < meeting.nextSession
  distinct :
    (meeting.openedSessions.map fun farewell =>
      farewell.session.number).Nodup

theorem isAccountedBut_nil_iff :
    meeting.IsAccountedBut [] [] ↔ meeting.IsAccounted := by
  constructor
  · intro accounted
    refine ⟨?_, ?_, accounted.numbered, accounted.distinct⟩
    · simpa using accounted.held
    · simpa using accounted.asked
  · intro accounted
    refine ⟨?_, ?_, accounted.numbered, accounted.distinct⟩
    · simpa using accounted.held
    · simpa using accounted.asked

/-- What a move does with sessions. -/
structure Transfer where
  opened : List Farewell := []
  /-- The sessions handed over. -/
  late : List Farewell := []
  /-- The sessions asked to close. -/
  asked : List Farewell := []
  /-- The sessions given up before they were asked to close. -/
  dropped : List Farewell := []
  /-- The sessions that were taken from somebody and not handed over. -/
  lost : List Farewell := []

/-- `HandsOn meeting after transfer` means that what a move has done with
sessions is in the transfer. -/
structure HandsOn (meeting after : Meeting) (transfer : Transfer) : Prop where
  placed :
    sessionsOf after.participants ++ (transfer.late ++ transfer.lost) ~
      transfer.opened ++ sessionsOf meeting.participants
  farewells : after.farewells = meeting.farewells ++ transfer.late
  leaving :
    meeting.leaving ++ transfer.late ~
      after.leaving ++ (transfer.asked ++ transfer.dropped)
  opened : after.openedSessions = meeting.openedSessions ++ transfer.opened
  asked : after.askedSessions = meeting.askedSessions ++ transfer.asked
  nextNumber :
    after.nextSession = meeting.nextSession + transfer.opened.length
  numbered :
    (transfer.opened.map fun farewell => farewell.session.number) =
      List.range' meeting.nextSession transfer.opened.length

namespace HandsOn

variable {after : Meeting}

/-- Nothing that counts has changed. -/
theorem keep
    (sameSessions :
      (sessionsOf after.participants).Perm (sessionsOf meeting.participants))
    (sameOpened : after.openedSessions = meeting.openedSessions)
    (sameAsked : after.askedSessions = meeting.askedSessions)
    (sameFarewells : after.farewells = meeting.farewells)
    (sameLeaving : after.leaving = meeting.leaving)
    (sameNumber : after.nextSession = meeting.nextSession) :
    HandsOn meeting after {} where
  placed := by simpa using sameSessions
  farewells := by simpa using sameFarewells
  leaving := by simp [sameLeaving]
  opened := by simpa using sameOpened
  asked := by simpa using sameAsked
  nextNumber := sameNumber
  numbered := rfl

theorem handOver {gone : List Farewell}
    (fewer :
      (sessionsOf meeting.participants).Perm
        (gone ++ sessionsOf after.participants))
    (sameCalls : after.calls = meeting.calls)
    (farewells : after.farewells = meeting.farewells ++ gone)
    (leaving : after.leaving = meeting.leaving ++ gone)
    (sameNumber : after.nextSession = meeting.nextSession) :
    HandsOn meeting after { late := gone } where
  placed := by
    rw [List.append_nil]
    exact List.perm_append_comm.trans fewer.symm
  farewells := farewells
  leaving := by simp [leaving]
  opened := by simp [openedSessions, sameCalls]
  asked := by simp [askedSessions, sameCalls]
  nextNumber := sameNumber
  numbered := rfl

/-- A session has been opened, and somebody holds it or it was handed over. -/
theorem openSession {identity : String} {name : String}
    {late : List Farewell}
    (calls :
      after.calls =
        meeting.calls ++ [.opened identity ⟨meeting.nextSession, name⟩])
    (placed :
      (sessionsOf after.participants ++ late).Perm
        (⟨identity, ⟨meeting.nextSession, name⟩⟩ ::
          sessionsOf meeting.participants))
    (farewells : after.farewells = meeting.farewells ++ late)
    (leaving : after.leaving = meeting.leaving ++ late)
    (nextNumber : after.nextSession = meeting.nextSession + 1) :
    HandsOn meeting after
      { opened := [⟨identity, ⟨meeting.nextSession, name⟩⟩]
        late := late } where
  placed := by simpa using placed
  farewells := farewells
  leaving := by simp [leaving]
  opened := openedSessions_append calls
  asked := askedSessions_append calls
  nextNumber := nextNumber
  numbered := rfl

theorem ask {farewell : Farewell} (member : farewell ∈ meeting.leaving) :
    HandsOn meeting (meeting.beginClosing farewell)
      { asked := [farewell] } := by
  have calls :
      (meeting.beginClosing farewell).calls =
        meeting.calls ++
          [.askedClose farewell.identity farewell.session] :=
    rfl
  constructor
  · simp [beginClosing, call]
  · exact (List.append_nil _).symm
  · simp only [beginClosing, call, List.append_nil]
    exact (List.perm_cons_erase member).trans
      (List.perm_append_singleton _ _).symm
  · exact openedSessions_append calls
  · exact askedSessions_append calls
  · rfl
  · rfl

theorem abandon :
    HandsOn meeting meeting.noteGrace.abandonPending.endWaiting
      { dropped := meeting.leaving } where
  placed := by simp [noteGrace, abandonPending, endWaiting, note]
  farewells := (List.append_nil _).symm
  leaving := by simp [noteGrace, abandonPending, endWaiting, note]
  opened := (List.append_nil _).symm
  asked := (List.append_nil _).symm
  nextNumber := rfl
  numbered := rfl

/-- The accounts are in order after the transfer if they were before. -/
theorem isAccountedBut {transfer : Transfer} {lost dropped : List Farewell}
    (handsOn : HandsOn meeting after transfer)
    (accounted : meeting.IsAccountedBut lost dropped) :
    after.IsAccountedBut (lost ++ transfer.lost)
      (dropped ++ transfer.dropped) := by
  refine ⟨?_, ?_, ?_, ?_⟩
  · rw [handsOn.opened, handsOn.farewells, List.perm_iff_count]
    intro farewell
    have before := accounted.held.count_eq farewell
    have moved := handsOn.placed.count_eq farewell
    simp only [List.count_append] at before moved ⊢
    omega
  · rw [handsOn.farewells, handsOn.asked, List.perm_iff_count]
    intro farewell
    have before := accounted.asked.count_eq farewell
    have moved := handsOn.leaving.count_eq farewell
    simp only [List.count_append] at before moved ⊢
    omega
  · rw [handsOn.opened, handsOn.nextNumber]
    intro farewell member
    rcases List.mem_append.1 member with earlier | new
    · exact Nat.lt_add_right _ (accounted.numbered farewell earlier)
    · have number := List.mem_map_of_mem new
        (f := fun farewell => farewell.session.number)
      rw [handsOn.numbered, List.mem_range'_1] at number
      exact number.2
  · rw [handsOn.opened, List.map_append, handsOn.numbered]
    apply List.Nodup.append accounted.distinct List.nodup_range'
    intro number member new
    obtain ⟨farewell, earlier, rfl⟩ := List.mem_map.1 member
    have below := accounted.numbered farewell earlier
    have above := (List.mem_range'_1.1 new).1
    omega

end HandsOn

/-- No effect of a move loses a session, and none gives one up unless what is
in flight is given up. -/
theorem Effect.handsOn {recorder : Recorder} {move : Move} {after : Meeting}
    (keyed : meeting.IsKeyed) (effect : Effect recorder meeting move after) :
    ∃ transfer, HandsOn meeting after transfer ∧ transfer.lost = [] ∧
      (move ≠ .abandonPending → transfer.dropped = []) := by
  have moved {other : Meeting} {transfer : Transfer}
      (handsOn : HandsOn meeting other transfer) (none : transfer.lost = [])
      (keeps : transfer.dropped = []) :
      ∃ transfer, HandsOn meeting other transfer ∧ transfer.lost = [] ∧
        (move ≠ .abandonPending → transfer.dropped = []) :=
    ⟨transfer, handsOn, none, fun _ => keeps⟩
  cases effect with
  | joined hears absent takes =>
      refine moved (.keep ?_ rfl rfl rfl rfl rfl) rfl rfl
      exact sessionsOf_insert_new absent _
  | left hears found takes =>
      refine moved (.handOver ?_ rfl rfl rfl rfl) rfl rfl
      exact sessionsOf_found found
  | woken hears found lacks isPaused takes =>
      rw [requestOpenings_eq]
      refine moved (.keep ?_ rfl rfl rfl rfl rfl) rfl rfl
      exact .of_eq (sessionsOf_map_same _ (farewellOf_wake _))
  | retried hears found lacks isPaused =>
      refine moved (.keep ?_ rfl rfl rfl rfl rfl) rfl rfl
      exact sessionsOf_insert_same found rfl
  | spoken hears said takes =>
      refine moved (.keep ?_ rfl rfl rfl rfl rfl) rfl rfl
      exact sessionsOf_modify _ _ fun _ => rfl
  | openingBegun found waiting =>
      exact moved (.keep (.refl _)
        ((openedSessions_append rfl).trans (List.append_nil _))
        ((askedSessions_append rfl).trans (List.append_nil _)) rfl rfl rfl)
          rfl rfl
  | openingFailed found begun =>
      refine moved (.keep ?_ rfl rfl rfl rfl rfl) rfl rfl
      exact sessionsOf_modify _ _ fun _ => rfl
  | attached found begun tracked none =>
      have same := keyed _ _ tracked
      refine moved (.openSession rfl ?_ (List.append_nil _).symm
        (List.append_nil _).symm rfl) rfl rfl
      rw [List.append_nil]
      refine (sessionsOf_insert _ _ _).trans ?_
      rw [farewellOf_some rfl, List.singleton_append]
      refine (List.Perm.of_eq ?_).trans
        ((sessionsOf_found tracked).symm.cons _)
      rw [farewellOf_none none, List.nil_append]
      simp [Participant.endOpening, same]
  | discarded found begun tracked held =>
      refine moved (.openSession rfl ?_ rfl rfl rfl) rfl rfl
      refine (List.perm_append_singleton _ _).trans (List.Perm.cons _ ?_)
      exact sessionsOf_insert_same tracked rfl
  | orphaned found begun absent =>
      refine moved (.openSession rfl ?_ rfl rfl rfl) rfl rfl
      exact List.perm_append_singleton _ _
  | closingBegun member => exact moved (.ask member) rfl rfl
  | closingDone member =>
      exact moved (.keep (.refl _)
        ((openedSessions_append rfl).trans (List.append_nil _))
        ((askedSessions_append rfl).trans (List.append_nil _)) rfl rfl rfl)
          rfl rfl
  | paused isCheck timeout silent takes =>
      refine moved (.handOver ?_ rfl rfl rfl rfl) rfl rfl
      rw [remainingSessions_eq]
      exact .of_eq
        ((congrArg _ (sessionsOf_map_none _ Participant.session_hush)).trans
          (List.append_nil _)).symm
  | abandoned => exact ⟨_, .abandon, rfl, fun patient => absurd rfl patient⟩
  | collected isQuiet =>
      refine moved (.handOver ?_ rfl rfl rfl rfl) rfl rfl
      rw [remainingSessions_eq]
      exact .of_eq
        ((congrArg _ (sessionsOf_map_none _ Participant.session_release)).trans
          (List.append_nil _)).symm
  | finished isCleared =>
      rw [finish_eq]
      exact moved (.keep (.refl _) rfl rfl rfl rfl rfl) rfl rfl
  | _ => exact moved (.keep (.refl _) rfl rfl rfl rfl rfl) rfl rfl

/-- No outcome of a move loses a session or doubles one, unless what is in
flight is given up. -/
theorem Outcome.isAccounted {move : Move} {after : Meeting}
    (keyed : meeting.IsKeyed) (patient : move ≠ .abandonPending)
    (accounted : meeting.IsAccounted) (outcome : Outcome meeting move after) :
    after.IsAccounted := by
  obtain ⟨transfer, handsOn, none, keeps⟩ := Effect.handsOn keyed outcome
  have stillAccounted :=
    handsOn.isAccountedBut (isAccountedBut_nil_iff.2 accounted)
  rw [none, keeps patient] at stillAccounted
  exact isAccountedBut_nil_iff.1 stillAccounted

/-! ## The end -/

/-- `IsSettled meeting` means that nothing is being opened any more once the
wait at the end is over, and that nobody has a session once those left have been
handed over. -/
structure IsSettled (meeting : Meeting) : Prop where
  waited : meeting.hasWaited = true →
    meeting.isClosed = true ∧ meeting.openings = []
  collected : meeting.isCollected = true →
    meeting.hasWaited = true ∧ sessionsOf meeting.participants = []

theorem opening?_eq_none (meeting : Meeting) (none : meeting.openings = [])
    (ticket : Nat) : meeting.opening? ticket = .none := by
  rw [opening?, none]
  rfl

namespace IsSettled

/-- Nothing is being opened once the wait is over. -/
theorem not_waited (settled : meeting.IsSettled) {ticket : Nat}
    {opening : Opening} (found : meeting.opening? ticket = some opening) :
    ¬ meeting.hasWaited = true := by
  intro waited
  rw [opening?_eq_none meeting (settled.waited waited).2] at found
  cases found

/-- A meeting listens no more once the wait is over. -/
theorem not_waited_of_isOpen (settled : meeting.IsSettled)
    (isOpen : meeting.isClosed = false) : ¬ meeting.hasWaited = true := by
  intro waited
  rw [(settled.waited waited).1] at isOpen
  cases isOpen

/-- The wait is not over, so that nothing is settled yet. -/
theorem unsettled {after : Meeting} (settled : meeting.IsSettled)
    (goesOn : ¬ meeting.hasWaited = true)
    (sameWait : after.hasWaited = meeting.hasWaited)
    (sameEnd : after.isCollected = meeting.isCollected) :
    after.IsSettled where
  waited done := absurd (sameWait.symm.trans done) goesOn
  collected done :=
    absurd (settled.collected (sameEnd.symm.trans done)).1 goesOn

end IsSettled

/-- An outcome leaves a meeting settled that is told of nothing at its end. -/
theorem Outcome.isSettled {move : Move} {after : Meeting}
    (settled : meeting.IsSettled) (listens : meeting.listensTo move = true)
    (outcome : Outcome meeting move after) : after.IsSettled := by
  have goesOn {event : RoomEvent} (hears : meeting.Hears move event) :
      ¬ meeting.hasWaited = true :=
    settled.not_waited_of_isOpen (hears.isClosed_eq listens)
  cases outcome with
  | joined hears => exact settled.unsettled (goesOn hears) rfl rfl
  | left hears => exact settled.unsettled (goesOn hears) rfl rfl
  | woken hears =>
      rw [requestOpenings_eq]
      exact settled.unsettled (goesOn hears) rfl rfl
  | retried hears => exact settled.unsettled (goesOn hears) rfl rfl
  | spoken hears => exact settled.unsettled (goesOn hears) rfl rfl
  | openingBegun found =>
      exact settled.unsettled (settled.not_waited found) rfl rfl
  | openingFailed found =>
      exact settled.unsettled (settled.not_waited found) rfl rfl
  | attached found =>
      exact settled.unsettled (settled.not_waited found) rfl rfl
  | discarded found =>
      exact settled.unsettled (settled.not_waited found) rfl rfl
  | orphaned found =>
      exact settled.unsettled (settled.not_waited found) rfl rfl
  | paused =>
      exact ⟨settled.waited, fun collected =>
        ⟨(settled.collected collected).1,
          sessionsOf_map_none _ Participant.session_hush⟩⟩
  | stopped =>
      exact ⟨fun waited => ⟨rfl, (settled.waited waited).2⟩,
        settled.collected⟩
  | waited isQuiet =>
      simp only [Meeting.isQuiet, Bool.and_eq_true, List.isEmpty_iff]
        at isQuiet
      exact ⟨fun _ => isQuiet.1, fun collected =>
        ⟨rfl, (settled.collected collected).2⟩⟩
  | abandoned isClosed =>
      exact ⟨fun _ => ⟨isClosed, rfl⟩, fun collected =>
        ⟨rfl, (settled.collected collected).2⟩⟩
  | collected isUnwound =>
      obtain ⟨-, waited⟩ := Bool.and_eq_true_iff.1 isUnwound
      exact ⟨settled.waited, fun _ =>
        ⟨waited, sessionsOf_map_none _ Participant.session_release⟩⟩
  | finished =>
      rw [finish_eq]
      exact ⟨settled.waited, settled.collected⟩
  | _ => exact ⟨settled.waited, settled.collected⟩

/-- A meeting that is cleared and told of nothing stays so. -/
theorem Outcome.isCleared {move : Move} {after : Meeting}
    (settled : meeting.IsSettled) (listens : meeting.listensTo move = true)
    (cleared : meeting.isCleared = true)
    (outcome : Outcome meeting move after) :
    after.isCleared = true := by
  simp only [Meeting.isCleared, Bool.and_eq_true, List.isEmpty_iff]
    at cleared ⊢
  obtain ⟨collected, none⟩ := cleared
  obtain ⟨waited, released⟩ := settled.collected collected
  have none_left : meeting.remainingSessions = [] :=
    (remainingSessions_eq meeting).trans released
  have deaf {event : RoomEvent} (hears : meeting.Hears move event) : False :=
    settled.not_waited_of_isOpen (hears.isClosed_eq listens) waited
  cases outcome with
  | joined hears => exact (deaf hears).elim
  | left hears => exact (deaf hears).elim
  | woken hears => exact (deaf hears).elim
  | discarded found => exact (settled.not_waited found waited).elim
  | orphaned found => exact (settled.not_waited found waited).elim
  | closingBegun member =>
      rw [none] at member
      cases member
  | paused => exact ⟨collected, by simp only [none, none_left, List.append_nil]⟩
  | abandoned => exact ⟨collected, rfl⟩
  | collected => exact ⟨rfl, by simp only [none, none_left, List.append_nil]⟩
  | finished =>
      rw [finish_eq]
      exact ⟨collected, none⟩
  | _ => exact ⟨collected, none⟩

/-! ## One place for every session -/

/-- `IsAttached meeting identity session` means that the participant with the
identity is tracked and has the session. -/
def IsAttached (meeting : Meeting) (identity : String) (session : Session) :
    Prop :=
  ∃ participant,
    meeting.participants.get? identity = some participant ∧
      participant.session = some session

theorem isAttached_iff {identity : String} {session : Session} :
    meeting.IsAttached identity session ↔
      (meeting.participants.get? identity).bind Participant.session =
        some session :=
  Option.bind_eq_some_iff.symm

instance (meeting : Meeting) (identity : String) (session : Session) :
    Decidable (meeting.IsAttached identity session) :=
  decidable_of_iff _ isAttached_iff.symm

/-- How often a session was handed over to be closed. -/
def handovers (meeting : Meeting) (session : Session) : Nat :=
  meeting.farewells.countP fun farewell => farewell.session = session

/-- How often a session was asked to close. -/
def closeRequests (meeting : Meeting) (session : Session) : Nat :=
  meeting.askedSessions.countP fun farewell => farewell.session = session

theorem mem_sessionsOf_iff (keyed : meeting.IsKeyed) (identity : String)
    (session : Session) :
    ⟨identity, session⟩ ∈ sessionsOf meeting.participants ↔
      meeting.IsAttached identity session := by
  rw [sessionsOf, List.mem_flatMap]
  constructor
  · rintro ⟨participant, member, held⟩
    have found := (mem_values_iff keyed participant).1 member
    unfold farewellOf at held
    split at held
    · cases held
    · next other has =>
        obtain ⟨rfl, rfl⟩ := Farewell.mk.inj (List.mem_singleton.1 held)
        exact ⟨participant, found, has⟩
  · rintro ⟨participant, found, has⟩
    have same := keyed identity participant found
    subst same
    refine ⟨participant, (mem_values_iff keyed participant).2 found, ?_⟩
    rw [farewellOf_some has]
    exact List.mem_singleton_self _

theorem mem_remainingSessions_iff (keyed : meeting.IsKeyed)
    (identity : String) (session : Session) :
    ⟨identity, session⟩ ∈ meeting.remainingSessions ↔
      meeting.IsAttached identity session := by
  rw [remainingSessions_eq]
  exact mem_sessionsOf_iff keyed identity session

theorem IsAttached.unique {identity : String} {first second : Session}
    (holdsFirst : meeting.IsAttached identity first)
    (holdsSecond : meeting.IsAttached identity second) : first = second := by
  obtain ⟨participant, found, has⟩ := holdsFirst
  obtain ⟨other, foundToo, hasToo⟩ := holdsSecond
  obtain rfl := Option.some.inj (found.symm.trans foundToo)
  exact Option.some.inj (has.symm.trans hasToo)

namespace IsAccounted

theorem opened_once (accounted : meeting.IsAccounted) {identity : String}
    {session : Session}
    (opened : ⟨identity, session⟩ ∈ meeting.openedSessions) :
    meeting.openedSessions.countP (fun farewell =>
      farewell.session = session) = 1 := by
  refine Nat.le_antisymm ?_ ?_
  · have once :
        (meeting.openedSessions.map fun farewell =>
          farewell.session.number).count session.number ≤ 1 :=
      List.nodup_iff_count_le_one.1 accounted.distinct _
    rw [List.count, List.countP_map] at once
    refine Nat.le_trans (List.countP_mono_left ?_) once
    intro farewell _ same
    simpa using congrArg Session.number (of_decide_eq_true same)
  · exact List.countP_pos_iff.2 ⟨_, opened, by simp⟩

/-- A session that was opened for somebody was opened for nobody else. -/
theorem opened_unique (accounted : meeting.IsAccounted)
    {identity other : String} {session : Session}
    (opened : ⟨identity, session⟩ ∈ meeting.openedSessions)
    (openedToo : ⟨other, session⟩ ∈ meeting.openedSessions) :
    other = identity := by
  have same :=
    List.inj_on_of_nodup_map accounted.distinct openedToo opened rfl
  exact congrArg Farewell.identity same

/-- Somebody holds a session or it was handed over once, and not both. -/
theorem one_place (accounted : meeting.IsAccounted) {identity : String}
    {session : Session}
    (opened : ⟨identity, session⟩ ∈ meeting.openedSessions) :
    (sessionsOf meeting.participants).countP (fun farewell =>
      farewell.session = session) + meeting.handovers session = 1 := by
  rw [handovers, ← List.countP_append, ← accounted.held.countP_eq]
  exact accounted.opened_once opened

theorem closeRequests_add (accounted : meeting.IsAccounted)
    (session : Session) :
    meeting.handovers session =
      meeting.leaving.countP (fun farewell => farewell.session = session) +
        meeting.closeRequests session := by
  rw [handovers, accounted.asked.countP_eq, List.countP_append,
    closeRequests]

/-- A session that was opened is attached to the participant it was opened for,
or was handed over once. -/
theorem attached_or_handed (accounted : meeting.IsAccounted)
    (keyed : meeting.IsKeyed) {identity : String} {session : Session}
    (opened : ⟨identity, session⟩ ∈ meeting.openedSessions) :
    (meeting.IsAttached identity session ∧
        (∀ other, meeting.IsAttached other session → other = identity) ∧
        meeting.handovers session = 0) ∨
      ((∀ other, ¬ meeting.IsAttached other session) ∧
        meeting.handovers session = 1) := by
  have attachedIsOpened : ∀ other, meeting.IsAttached other session →
      ⟨other, session⟩ ∈ meeting.openedSessions := by
    intro other attached
    exact accounted.held.mem_iff.2
      (List.mem_append_left _ ((mem_sessionsOf_iff keyed _ _).2 attached))
  have total := accounted.one_place opened
  by_cases someone : ∃ other, meeting.IsAttached other session
  · left
    obtain ⟨other, attached⟩ := someone
    have same : other = identity :=
      accounted.opened_unique opened (attachedIsOpened other attached)
    subst same
    have counted :
        0 < (sessionsOf meeting.participants).countP fun farewell =>
          farewell.session = session :=
      List.countP_pos_iff.2
        ⟨_, (mem_sessionsOf_iff keyed _ _).2 attached, by simp⟩
    refine ⟨attached, ?_, by omega⟩
    intro another attachedToo
    exact accounted.opened_unique opened (attachedIsOpened _ attachedToo)
  · right
    have nobody : ∀ other, ¬ meeting.IsAttached other session :=
      fun other attached => someone ⟨other, attached⟩
    have uncounted :
        ((sessionsOf meeting.participants).countP fun farewell =>
          farewell.session = session) = 0 := by
      rw [List.countP_eq_zero]
      rintro ⟨other, another⟩ member same
      have equal : another = session := by
        simpa using same
      subst equal
      exact nobody other ((mem_sessionsOf_iff keyed _ _).1 member)
    exact ⟨nobody, by omega⟩

end IsAccounted

/-- What a meeting is like after it has been cleared: nobody holds a session,
and every session was asked to close once. -/
theorem closed_once_of_isCleared (accounted : meeting.IsAccounted)
    (settled : meeting.IsSettled) (keyed : meeting.IsKeyed)
    (cleared : meeting.isCleared = true) :
    (∀ identity session, ¬ meeting.IsAttached identity session) ∧
      ∀ identity session, ⟨identity, session⟩ ∈ meeting.openedSessions →
        meeting.closeRequests session = 1 := by
  simp only [Meeting.isCleared, Bool.and_eq_true, List.isEmpty_iff]
    at cleared
  obtain ⟨collected, none⟩ := cleared
  have released := (settled.collected collected).2
  refine ⟨?_, ?_⟩
  · intro identity session attached
    have member := (mem_sessionsOf_iff keyed _ _).2 attached
    rw [released] at member
    cases member
  · intro identity session opened
    have total := accounted.one_place opened
    rw [released, accounted.closeRequests_add, none] at total
    simpa using total

/-- The sessions of a run: its accounts are in order whatever has happened so
far. -/
theorem performAll_isAccounted {begun : Meeting} (keyed : begun.IsKeyed)
    (accounted : begun.IsAccounted) {moves : List Move}
    (taken : begun.takesAll moves = true)
    (patient : Move.abandonPending ∉ moves) :
    (begun.performAll moves).IsKeyed ∧
      (begun.performAll moves).IsAccounted := by
  refine performAll_induction
    (motive := fun _ meeting => meeting.IsKeyed ∧ meeting.IsAccounted)
    keyed ⟨keyed, accounted⟩ taken ?_
  intro done move meeting after member stillKeyed held outcome
  have different : move ≠ .abandonPending := by
    rintro rfl
    exact patient member
  exact
    ⟨outcome.isKeyed stillKeyed,
      outcome.isAccounted stillKeyed different held.2⟩

/-- What settled meetings are like stays so in a run with nothing told at its
end. -/
theorem performAll_isSettled {moves : List Move} :
    ∀ {begun : Meeting}, begun.IsKeyed → begun.IsSettled →
      begun.takesAll moves = true → begun.listensToAll moves = true →
      (begun.performAll moves).IsSettled ∧
        (begun.isCleared = true →
          (begun.performAll moves).isCleared = true) := by
  induction moves with
  | nil =>
      intro begun keyed settled taken listens
      exact ⟨settled, id⟩
  | cons move moves inductionHypothesis =>
      intro begun keyed settled taken listens
      rw [takesAll, Bool.and_eq_true] at taken
      rw [listensToAll, Bool.and_eq_true] at listens
      have outcome := perform_outcome keyed taken.1
      obtain ⟨reachedSettled, reachedCleared⟩ :=
        inductionHypothesis (outcome.isKeyed keyed)
          (outcome.isSettled settled listens.1) taken.2 listens.2
      exact ⟨reachedSettled, fun cleared =>
        reachedCleared (outcome.isCleared settled listens.1 cleared)⟩

theorem start_invariants {options : MeetingOptions}
    {storeOptions : StoreOptions} {files : FileTree} {began : Moment}
    {begun : Meeting}
    (started :
      (Meeting.new options storeOptions files began).start =
        (begun, .ok ())) :
    begun.IsKeyed ∧ begun.IsAccounted ∧ begun.IsSettled := by
  obtain ⟨_, rfl⟩ := start_ok started
  refine ⟨isKeyed_new options storeOptions files began, ?_, ?_⟩
  · refine ⟨.refl _, .refl _, ?_, List.nodup_nil⟩
    intro farewell member
    cases member
  · refine ⟨fun waited => ?_, fun collected => ?_⟩
    · cases waited
    · cases collected

/-- No session is lost or doubled. In every run in which the store takes every
record and nothing in flight is given up, each session that was opened is
attached to the tracked participant it was opened for and to nobody else, or it
was handed over to be closed, once; nobody has two. A session is asked to close
no more often than it was handed over. Once the meeting has finished, nobody
has a session and each one opened was asked to close once, as long as the
meeting has been told of no event while it was being closed. -/
theorem each_session_in_one_place {options : MeetingOptions}
    {storeOptions : StoreOptions} {files : FileTree} {began : Moment}
    {begun : Meeting}
    (started :
      (Meeting.new options storeOptions files began).start =
        (begun, .ok ()))
    {moves : List Move} (taken : begun.takesAll moves = true)
    (patient : Move.abandonPending ∉ moves) :
    let reached := begun.performAll moves
    (∀ identity session, .opened identity session ∈ reached.calls →
      (reached.IsAttached identity session ∧
          (∀ other, reached.IsAttached other session → other = identity) ∧
          reached.handovers session = 0) ∨
        ((∀ other, ¬ reached.IsAttached other session) ∧
          reached.handovers session = 1)) ∧
    (∀ identity session, reached.IsAttached identity session →
      .opened identity session ∈ reached.calls) ∧
    (∀ farewell ∈ reached.farewells,
      .opened farewell.identity farewell.session ∈ reached.calls) ∧
    (∀ identity first second, reached.IsAttached identity first →
      reached.IsAttached identity second → first = second) ∧
    (∀ session,
      reached.closeRequests session ≤ reached.handovers session) ∧
    (begun.listensToAll moves = true →
      ∀ earlier failures later, moves = earlier ++ .finish failures :: later →
      (begun.performAll earlier).isCleared = true →
      (∀ identity session, ¬ reached.IsAttached identity session) ∧
        ∀ identity session, .opened identity session ∈ reached.calls →
          reached.closeRequests session = 1) := by
  obtain ⟨keyed, accounted, settled⟩ := start_invariants started
  obtain ⟨reachedKeyed, reachedAccounted⟩ :=
    performAll_isAccounted keyed accounted taken patient
  simp only [← mem_openedSessions]
  refine ⟨?_, ?_, ?_, ?_, ?_, ?_⟩
  · intro identity session opened
    exact reachedAccounted.attached_or_handed reachedKeyed opened
  · intro identity session attached
    exact reachedAccounted.held.mem_iff.2
      (List.mem_append_left _
        ((mem_sessionsOf_iff reachedKeyed _ _).2 attached))
  · intro farewell member
    exact reachedAccounted.held.mem_iff.2 (List.mem_append_right _ member)
  · intro identity first second
    exact IsAttached.unique
  · intro session
    rw [reachedAccounted.closeRequests_add]
    exact Nat.le_add_left _ _
  · rintro listens earlier failures later rfl cleared
    rw [takesAll_append, Bool.and_eq_true] at taken
    rw [listensToAll_append, Bool.and_eq_true] at listens
    obtain ⟨earlierKeyed, -⟩ :=
      performAll_isAccounted keyed accounted taken.1
        fun member => patient (List.mem_append_left _ member)
    obtain ⟨earlierSettled, -⟩ :=
      performAll_isSettled keyed settled taken.1 listens.1
    obtain ⟨reachedSettled, staysCleared⟩ :=
      performAll_isSettled earlierKeyed earlierSettled taken.2 listens.2
    rw [← performAll_append] at reachedSettled staysCleared
    exact closed_once_of_isCleared reachedAccounted reachedSettled
      reachedKeyed (staysCleared cleared)

/-- Somebody leaves and comes back while a session is being opened for them, so
that two sessions are opened; and the meeting finishes. -/
def comingBack : List Move :=
  [.handle (.joined "ada" none), .beginOpening 0, .tell (.left "ada"),
    .handle (.joined "ada" none), .beginOpening 1,
    .finishOpening 0 (.opened "first"), .finishOpening 1 (.opened "second"),
    .beginClosing ⟨"ada", ⟨1, "second"⟩⟩, .stopListening, .endWaiting,
    .collectSessions, .beginClosing ⟨"ada", ⟨0, "first"⟩⟩, .finish 0]

theorem both_sessions_of_comingBack_closed_once :
    small.start.1.takesAll comingBack = true ∧
    Move.abandonPending ∉ comingBack ∧
    small.start.1.listensToAll comingBack = true ∧
    (small.start.1.performAll comingBack).openedSessions =
      [⟨"ada", ⟨0, "first"⟩⟩, ⟨"ada", ⟨1, "second"⟩⟩] ∧
    ∀ session ∈ [(⟨0, "first"⟩ : Session), ⟨1, "second"⟩],
      (small.start.1.performAll comingBack).closeRequests session = 1 := by
  have taken : small.start.1.takesAll comingBack = true := by
    decide +kernel
  have patient : Move.abandonPending ∉ comingBack := by
    decide
  have listens : small.start.1.listensToAll comingBack = true := by
    decide +kernel
  have opened :
      (small.start.1.performAll comingBack).openedSessions =
        [⟨"ada", ⟨0, "first"⟩⟩, ⟨"ada", ⟨1, "second"⟩⟩] := by
    decide +kernel
  obtain ⟨_, _, _, _, _, afterwards⟩ :=
    each_session_in_one_place small_starts taken patient
  obtain ⟨_, closedOnce⟩ :=
    afterwards listens (comingBack.take 12) 0 [] rfl (by decide +kernel)
  refine ⟨taken, patient, listens, opened, ?_⟩
  intro session member
  refine closedOnce "ada" session ((mem_openedSessions _ _ _).1 ?_)
  rw [opened]
  simp only [List.mem_cons, List.not_mem_nil, or_false] at member ⊢
  rcases member with rfl | rfl
  · exact .inl rfl
  · exact .inr rfl

/-- The meeting has finished, and then it is told of an audio track of somebody
who joined before. -/
def comingLate : List Move :=
  [.handle (.joined "ada" none), .beginOpening 0,
    .finishOpening 0 (.opened "first"), .stopListening, .endWaiting,
    .collectSessions, .beginClosing ⟨"ada", ⟨0, "first"⟩⟩,
    .finishClosing ⟨"ada", ⟨0, "first"⟩⟩ none, .finish 0,
    .tell (.trackSubscribed "ada"), .beginOpening 1,
    .finishOpening 1 (.opened "second")]

/-- A session that is opened because a meeting was told of an event after its
end stays attached, and is not handed over to be closed. -/
theorem session_of_comingLate_stays :
    let finished := small.start.1.performAll (comingLate.take 8)
    let reached := small.start.1.performAll comingLate
    small.start = (small.start.1, .ok ()) ∧
      small.start.1.takesAll comingLate = true ∧
      Move.abandonPending ∉ comingLate ∧
      finished.isCleared = true ∧
      (finished.finish 0).2 = .ok () ∧
      Call.opened "ada" ⟨1, "second"⟩ ∈ reached.calls ∧
      reached.IsAttached "ada" ⟨1, "second"⟩ ∧
      reached.handovers ⟨1, "second"⟩ = 0 := by
  refine ⟨small_starts, ?_, ?_, ?_, ?_, ?_, ?_, ?_⟩
  all_goals decide +kernel

end MeetingLog.Meeting
