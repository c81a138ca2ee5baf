import MeetingLog.Proofs.Meeting.Custody

/-!
# Openings and closings that go on

Sessions are opened and closed, or these attempts are given up, while time goes
by. None of that goes on record, what was asked for stays asked for, and
everybody who has a session keeps it.
-/

namespace MeetingLog.Meeting

open MeetingLog.Trace

variable {meeting after : Meeting}

/-- `Unwinds meeting after` means that `after` may follow on the meeting when
openings and closings begin and end while time goes by. -/
structure Unwinds (meeting after : Meeting) : Prop where
  store : after.store = meeting.store
  files : after.files = meeting.files
  records : after.records = meeting.records
  options : after.options = meeting.options
  elapsed : meeting.elapsed ≤ after.elapsed
  closed : meeting.isClosed = true → after.isClosed = true
  calls : meeting.calls ⊆ after.calls
  keyed : meeting.IsKeyed → after.IsKeyed
  attached : meeting.IsKeyed → ∀ identity session,
    meeting.IsAttached identity session → after.IsAttached identity session

namespace Unwinds

theorem refl (meeting : Meeting) : Unwinds meeting meeting where
  store := rfl
  files := rfl
  records := rfl
  options := rfl
  elapsed := Nat.le_refl _
  closed isClosed := isClosed
  calls := List.Subset.refl _
  keyed keyed := keyed
  attached _ _ _ attached := attached

theorem trans {between : Meeting} (first : Unwinds meeting between)
    (second : Unwinds between after) : Unwinds meeting after where
  store := second.store.trans first.store
  files := second.files.trans first.files
  records := second.records.trans first.records
  options := second.options.trans first.options
  elapsed := Nat.le_trans first.elapsed second.elapsed
  closed isClosed := second.closed (first.closed isClosed)
  calls := List.Subset.trans first.calls second.calls
  keyed keyed := second.keyed (first.keyed keyed)
  attached keyed identity session held :=
    second.attached (first.keyed keyed) identity session
      (first.attached keyed identity session held)

theorem note (meeting : Meeting) (note : Note) :
    Unwinds meeting (meeting.note note) :=
  { refl meeting with }

theorem call (meeting : Meeting) (call : Call) :
    Unwinds meeting (meeting.call call) :=
  { refl meeting with calls := List.subset_append_left _ _ }

theorem handOver (meeting : Meeting) (farewells : List Farewell) :
    Unwinds meeting (meeting.handOver farewells) :=
  { refl meeting with }

theorem tick (milliseconds : Nat) (meeting : Meeting) :
    Unwinds meeting (meeting.tick milliseconds) :=
  { refl meeting with elapsed := Nat.le_add_right _ _ }

theorem stopListening (meeting : Meeting) :
    Unwinds meeting meeting.stopListening :=
  { refl meeting with closed := fun _ => rfl }

theorem abandonPending (meeting : Meeting) :
    Unwinds meeting meeting.abandonPending :=
  { refl meeting with }

theorem beginOpening (meeting : Meeting) (opening : Opening) :
    Unwinds meeting (meeting.beginOpening opening) :=
  { refl meeting with calls := List.subset_append_left _ _ }

theorem beginClosing (meeting : Meeting) (farewell : Farewell) :
    Unwinds meeting (meeting.beginClosing farewell) :=
  { refl meeting with calls := List.subset_append_left _ _ }

theorem finishClosing (meeting : Meeting) (farewell : Farewell) :
    Unwinds meeting (meeting.finishClosing farewell) :=
  { refl meeting with calls := List.subset_append_left _ _ }

theorem noteClosingFailure (meeting : Meeting) (farewell : Farewell)
    (reason : String) :
    Unwinds meeting (meeting.noteClosingFailure farewell reason) :=
  { refl meeting with }

/-- A participant is put in place of what they were before, and keeps their
session. -/
theorem putParticipant {identity : String} {before participant : Participant}
    (found : meeting.participants.get? identity = some before)
    (same : participant.identity = before.identity)
    (kept : ∀ session, before.session = some session →
      participant.session = some session) :
    Unwinds meeting (meeting.putParticipant participant) :=
  { refl meeting with
    keyed := fun keyed => keyed.insert rfl rfl
    attached := by
      intro keyed other session attached
      obtain ⟨tracked, foundToo, has⟩ := attached
      have ownIdentity : participant.identity = identity := by
        rw [same, keyed identity before found]
      unfold IsAttached
      simp only [Meeting.putParticipant, ownIdentity, Table.get?_insert]
      by_cases equal : other = identity
      · subst equal
        obtain rfl := Option.some.inj (found.symm.trans foundToo)
        exact ⟨participant, if_pos rfl, kept session has⟩
      · exact ⟨tracked, by rwa [if_neg equal], has⟩ }

theorem changeParticipant (meeting : Meeting) (identity : String)
    {change : Participant → Participant}
    (same : ∀ participant,
      (change participant).identity = participant.identity)
    (kept : ∀ participant,
      (change participant).session = participant.session) :
    Unwinds meeting (meeting.changeParticipant identity change) :=
  { refl meeting with
    keyed := fun keyed => keyed.modify rfl same
    attached := by
      intro _ other session attached
      obtain ⟨tracked, found, has⟩ := attached
      unfold IsAttached
      simp only [Meeting.changeParticipant, Table.get?_modify]
      by_cases equal : other = identity
      · refine ⟨change tracked, ?_, by rw [kept, has]⟩
        rw [if_pos equal, ← equal, found, Option.map_some]
      · exact ⟨tracked, by rwa [if_neg equal], has⟩ }

theorem attach (meeting : Meeting) (identity : String) (session : Session) :
    Unwinds meeting (meeting.attach identity session).1 := by
  unfold Meeting.attach
  cases found : meeting.participant? identity with
  | none => exact (note _ _).trans (handOver _ _)
  | some participant =>
      simp only
      split
      · next lacks =>
          refine (note meeting _).trans (putParticipant found rfl ?_)
          intro held has
          rw [has] at lacks
          cases lacks
      · have ended :
            Unwinds meeting (meeting.putParticipant participant.endOpening) :=
          putParticipant found rfl fun _ has => has
        exact ended.trans ((note _ _).trans (handOver _ _))

theorem finishOpening (meeting : Meeting) (opening : Opening)
    (outcome : OpeningOutcome) :
    Unwinds meeting (meeting.finishOpening opening outcome).1 := by
  have dropped : Unwinds meeting (meeting.dropOpening opening.ticket) :=
    { refl meeting with }
  cases outcome with
  | opened name =>
      have numbered : Unwinds (meeting.dropOpening opening.ticket)
          ((meeting.dropOpening opening.ticket).newSession name).1 :=
        { refl _ with }
      exact dropped.trans (numbered.trans ((call _ _).trans (attach _ _ _)))
  | failed reason =>
      have noted := note (meeting.dropOpening opening.ticket)
        (openingFailureNote opening.identity reason)
      refine dropped.trans (noted.trans ?_)
      exact changeParticipant _ _ (fun _ => rfl) fun _ => rfl

end Unwinds

theorem elapsed_attach (meeting : Meeting) (identity : String)
    (session : Session) :
    (meeting.attach identity session).1.elapsed = meeting.elapsed := by
  unfold attach
  split
  · rfl
  · simp only
    split <;> rfl

/-- An opening takes no time when it comes to its end. -/
theorem elapsed_finishOpening (meeting : Meeting) (opening : Opening)
    (outcome : OpeningOutcome) :
    (meeting.finishOpening opening outcome).1.elapsed = meeting.elapsed := by
  cases outcome with
  | opened name => exact elapsed_attach _ _ _
  | failed reason => rfl

end MeetingLog.Meeting
