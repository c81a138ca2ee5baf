import MeetingLog.Proofs.Meeting.Runs
import MeetingLog.Proofs.Trace.Told

/-!
# Names

When all events of a room are about participants with names, everybody whom the
meeting has to do with has a name: those who take part, those for whom a session
is being opened, and those whose sessions are being closed.
-/

namespace MeetingLog

open MeetingLog.Text
open MeetingLog.Trace

/-- `event.IsLegible` means that the event is about somebody with a name, and
that what was said is plain. -/
def RoomEvent.IsLegible : RoomEvent → Prop
  | .joined identity _ => IsName identity
  | .left identity => IsName identity
  | .trackSubscribed identity => IsName identity
  | .utterance identity text => IsName identity ∧ IsPlain text

/-- `move.IsLegible` means that everything the move brings into the trace can
be told from what stands around it. The names of sessions and the reasons of
failures only have to be on one line. -/
def Move.IsLegible : Move → Prop
  | .handle event => event.IsLegible
  | .tell event => event.IsLegible
  | .finishOpening _ (.opened name) => IsOneLine name
  | .finishOpening _ (.failed reason) => IsOneLine reason
  | .finishClosing _ (some reason) => IsOneLine reason
  | _ => True

namespace Meeting

variable {meeting : Meeting}

/-- `meeting.HasNames` means that everybody whom the meeting has to do with has
a name. -/
structure HasNames (meeting : Meeting) : Prop where
  tracked : ∀ identity,
    meeting.participants.contains identity = true → IsName identity
  openings : ∀ opening ∈ meeting.openings, IsName opening.identity
  leaving : ∀ farewell ∈ meeting.leaving, IsName farewell.identity
  closings : ∀ farewell ∈ meeting.closings, IsName farewell.identity

namespace HasNames

variable {identity : String} {participant : Participant}

theorem of_get? (names : meeting.HasNames)
    (found : meeting.participants.get? identity = some participant) :
    IsName identity := by
  refine names.tracked identity ?_
  rw [Table.contains, found]
  rfl

theorem of_value (names : meeting.HasNames) (keyed : meeting.IsKeyed)
    (member : participant ∈ meeting.participants.values) :
    IsName participant.identity :=
  names.of_get? ((mem_values_iff keyed participant).1 member)

theorem of_opening? (names : meeting.HasNames) {ticket : Nat}
    {opening : Opening} (found : meeting.opening? ticket = some opening) :
    IsName opening.identity :=
  names.openings opening (List.mem_of_find?_eq_some found)

theorem of_farewell (name : IsName participant.identity) {farewell : Farewell}
    (member : farewell ∈ farewellOf participant) :
    IsName farewell.identity := by
  rw [farewellOf] at member
  split at member
  · exact absurd member List.not_mem_nil
  · obtain rfl := List.mem_singleton.1 member
    exact name

theorem of_remaining (names : meeting.HasNames) (keyed : meeting.IsKeyed)
    {farewell : Farewell} (member : farewell ∈ meeting.remainingSessions) :
    IsName farewell.identity := by
  obtain ⟨participant, present, found⟩ := List.mem_filterMap.1 member
  obtain ⟨session, -, rfl⟩ := Option.map_eq_some_iff.1 found
  exact names.of_value keyed present

theorem of_lacking (names : meeting.HasNames) {identities : List String}
    (member : identity ∈ meeting.lacking identities) : IsName identity := by
  have lacks := (List.mem_filter.1 member).2
  cases found : meeting.participants.get? identity with
  | none =>
      rw [found] at lacks
      cases lacks
  | some participant => exact names.of_get? found

theorem insert (names : meeting.HasNames) (name : IsName identity)
    (participant : Participant) :
    ∀ other, (meeting.participants.insert identity participant).contains
      other = true → IsName other := by
  intro other present
  rw [Table.contains_insert, Bool.or_eq_true, decide_eq_true_iff] at present
  rcases present with (rfl | before)
  · exact name
  · exact names.tracked other before

theorem modify (names : meeting.HasNames) (identity : String)
    (change : Participant → Participant) :
    ∀ other, (meeting.participants.modify identity change).contains
      other = true → IsName other := by
  intro other present
  rw [Table.contains_modify] at present
  exact names.tracked other present

theorem map (names : meeting.HasNames)
    (change : String → Participant → Participant) :
    ∀ other, (meeting.participants.map change).contains other = true →
      IsName other := by
  intro other present
  rw [Table.contains_map] at present
  exact names.tracked other present

end HasNames

theorem identity_mem_of_requested {ticket : Nat} {identities : List String}
    {opening : Opening} (member : opening ∈ requested ticket identities) :
    opening.identity ∈ identities := by
  have among := List.mem_map_of_mem (f := Opening.identity) member
  rwa [map_identity_requested] at among

theorem Hears.isLegible {move : Move} {event : RoomEvent}
    (hears : meeting.Hears move event) (legible : move.IsLegible) :
    event.IsLegible := by
  rcases hears with rfl | ⟨rfl, -⟩
  · exact legible
  · exact legible

/-- A legible move leaves everybody with a name. -/
theorem Outcome.hasNames {move : Move} {after : Meeting}
    (names : meeting.HasNames) (keyed : meeting.IsKeyed)
    (legible : move.IsLegible) (outcome : Outcome meeting move after) :
    after.HasNames := by
  have untouched : ∀ ticket, ∀ opening ∈ (meeting.dropOpening ticket).openings,
      IsName opening.identity := fun ticket opening member =>
    names.openings opening (List.mem_of_mem_filter member)
  have remaining : ∀ farewell ∈ meeting.leaving ++ meeting.remainingSessions,
      IsName farewell.identity :=
    List.forall_mem_append.2
      ⟨names.leaving, fun farewell member => names.of_remaining keyed member⟩
  cases outcome with
  | joined hears =>
      have name := hears.isLegible legible
      exact ⟨names.insert name _,
        List.forall_mem_append.2
          ⟨names.openings, List.forall_mem_singleton.2 name⟩,
        names.leaving, names.closings⟩
  | @left _ identity participant store files hears found takes =>
      have name : IsName participant.identity := by
        rw [keyed identity participant found]
        exact hears.isLegible legible
      refine ⟨fun other present => ?_, names.openings,
        List.forall_mem_append.2
          ⟨names.leaving, fun farewell member =>
            HasNames.of_farewell name member⟩,
        names.closings⟩
      rw [Table.contains_erase, Bool.and_eq_true] at present
      exact names.tracked other present.2
  | woken =>
      rw [requestOpenings_eq]
      exact ⟨names.map _,
        List.forall_mem_append.2
          ⟨names.openings, fun opening member =>
            names.of_lacking (identity_mem_of_requested member)⟩,
        names.leaving, names.closings⟩
  | retried hears =>
      have name := hears.isLegible legible
      exact ⟨names.insert name _,
        List.forall_mem_append.2
          ⟨names.openings, List.forall_mem_singleton.2 name⟩,
        names.leaving, names.closings⟩
  | spoken =>
      exact ⟨names.modify _ _, names.openings, names.leaving, names.closings⟩
  | openingBegun found waiting =>
      refine ⟨names.tracked, fun opening member => ?_, names.leaving,
        names.closings⟩
      obtain ⟨before, inOpenings, rfl⟩ := List.mem_map.1 member
      rw [markBegun]
      split
      · exact names.openings before inOpenings
      · exact names.openings before inOpenings
  | openingFailed =>
      exact ⟨names.modify _ _, untouched _, names.leaving, names.closings⟩
  | attached found begun tracked held =>
      exact ⟨names.insert (names.of_opening? found) _, untouched _,
        names.leaving, names.closings⟩
  | discarded found begun tracked held =>
      exact ⟨names.insert (names.of_opening? found) _, untouched _,
        List.forall_mem_append.2
          ⟨names.leaving,
            List.forall_mem_singleton.2 (names.of_opening? found)⟩,
        names.closings⟩
  | orphaned found begun absent =>
      exact ⟨names.tracked, untouched _,
        List.forall_mem_append.2
          ⟨names.leaving,
            List.forall_mem_singleton.2 (names.of_opening? found)⟩,
        names.closings⟩
  | closingBegun member =>
      exact ⟨names.tracked, names.openings,
        fun farewell left => names.leaving farewell (List.mem_of_mem_erase left),
        List.forall_mem_append.2
          ⟨names.closings,
            List.forall_mem_singleton.2 (names.leaving _ member)⟩⟩
  | closingDone | closingFailed =>
      exact ⟨names.tracked, names.openings, names.leaving,
        fun farewell left =>
          names.closings farewell (List.mem_of_mem_erase left)⟩
  | paused | collected =>
      exact ⟨names.map _, names.openings, remaining, names.closings⟩
  | abandoned => exact ⟨names.tracked, nofun, nofun, names.closings⟩
  | finished =>
      rw [finish_eq]
      exact ⟨names.tracked, names.openings, names.leaving, names.closings⟩
  | _ => exact ⟨names.tracked, names.openings, names.leaving, names.closings⟩

theorem hasNames_new (options : MeetingOptions) (storeOptions : StoreOptions)
    (files : Files.FileTree) (began : Calendar.Moment) :
    (Meeting.new options storeOptions files began).HasNames := by
  refine ⟨fun identity present => ?_, nofun, nofun, nofun⟩
  rw [Meeting.new, Table.contains_empty] at present
  cases present

end Meeting

end MeetingLog
