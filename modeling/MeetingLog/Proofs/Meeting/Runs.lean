import Mathlib.Data.List.Induction
import MeetingLog.Proofs.Meeting.Outcomes

/-!
# Runs of a meeting

What a run of moves leads to, as long as the store takes every record: each
move has one of its outcomes. Something that holds when a meeting begins and
that no outcome puts an end to therefore holds after every run.
-/

namespace MeetingLog.Meeting

open MeetingLog.Calendar
open MeetingLog.Files
open MeetingLog.Trace

variable {meeting : Meeting}

/-- The openings asked for by several participants, with their tickets. -/
def requested : Nat → List String → List Opening
  | _, [] => []
  | ticket, identity :: others =>
      ⟨ticket, identity, false⟩ :: requested (ticket + 1) others

theorem map_identity_requested (identities : List String) (ticket : Nat) :
    (requested ticket identities).map Opening.identity = identities := by
  induction identities generalizing ticket with
  | nil => rfl
  | cons identity others inductionHypothesis =>
      rw [requested, List.map_cons, inductionHypothesis]

theorem requestOpenings_eq (identities : List String) :
    ∀ meeting : Meeting,
      meeting.requestOpenings identities =
        { meeting with
          openings :=
            meeting.openings ++ requested meeting.nextTicket identities
          nextTicket := meeting.nextTicket + identities.length } := by
  induction identities with
  | nil =>
      intro meeting
      simp [requestOpenings, requested]
  | cons identity others inductionHypothesis =>
      intro meeting
      rw [requestOpenings, List.foldl_cons]
      refine (inductionHypothesis (meeting.requestOpening identity)).trans ?_
      simp [requestOpening, requested, Nat.add_comm, Nat.add_left_comm]

theorem noteAll_eq (notes : List Note) :
    ∀ meeting : Meeting,
      meeting.noteAll notes =
        { meeting with
          trace := meeting.trace ++ notes.map (Entry.mk meeting.now) } := by
  induction notes with
  | nil =>
      intro meeting
      simp [noteAll]
  | cons note others inductionHypothesis =>
      intro meeting
      rw [noteAll, List.foldl_cons]
      refine (inductionHypothesis (meeting.note note)).trans ?_
      simp [Meeting.note, now]

theorem withStore_eq (meeting : Meeting) (step : StoreStep) :
    meeting.withStore step =
      { meeting with
        store := step.store
        files := step.files
        trace := meeting.trace ++ step.notes.map (Entry.mk meeting.now) } := by
  rw [withStore, noteAll_eq]
  rfl

/-- What a meeting that was not started yet is like once it has begun. -/
theorem start_ok {options : MeetingOptions} {storeOptions : StoreOptions}
    {files : FileTree} {began : Moment} {begun : Meeting}
    (started :
      (Meeting.new options storeOptions files began).start =
        (begun, .ok ())) :
    ((Store.new storeOptions).start files).result = .ok () ∧
    begun =
      { Meeting.new options storeOptions files began with
        store := ((Store.new storeOptions).start files).store
        files := ((Store.new storeOptions).start files).files
        trace := (((Store.new storeOptions).start files).notes ++
          beginningNotes options).map (Entry.mk (began.later 0)) } := by
  unfold start at started
  simp only at started
  split at started
  · simp at started
  · next result =>
      obtain ⟨rfl, -⟩ := Prod.mk.inj started
      refine ⟨result, ?_⟩
      rw [withStore_eq, noteAll_eq]
      simp [Meeting.new, now]

/-- What a meeting is like after it has finished. -/
theorem finish_eq (meeting : Meeting) (failures : Nat) :
    (meeting.finish failures).1 =
      let step :=
        meeting.store.finalize meeting.files meeting.now.wholeSecond
      { meeting with
        store := step.store
        files := step.files
        trace := meeting.trace ++
          (failureNotes failures ++ step.notes ++
            if step.result.isOk then
              [Note.info "Protocol manager closed"]
            else []).map (Entry.mk meeting.now) } := by
  unfold finish finalizeStore
  simp only [noteAll_eq, withStore_eq]
  split
  · next reached error failed =>
      obtain ⟨rfl, result⟩ := Prod.mk.inj failed
      simp only [now] at result ⊢
      simp [result, Except.isOk, Except.toBool]
  · next reached done =>
      obtain ⟨rfl, result⟩ := Prod.mk.inj done
      simp only [now] at result ⊢
      simp [result, note, now, Except.isOk, Except.toBool]

/-! ## Keys -/

theorem IsKeyed.insert (keyed : meeting.IsKeyed) {after : Meeting}
    {identity : String} {participant : Participant}
    (equality :
      after.participants =
        meeting.participants.insert identity participant)
    (same : participant.identity = identity) :
    after.IsKeyed := by
  rw [IsKeyed, equality]
  exact Table.Holds.insert keyed same fun _ _ _ kept => kept

theorem IsKeyed.erase (keyed : meeting.IsKeyed) {after : Meeting}
    {identity : String}
    (equality :
      after.participants = meeting.participants.erase identity) :
    after.IsKeyed := by
  rw [IsKeyed, equality]
  exact Table.Holds.erase keyed

theorem IsKeyed.map (keyed : meeting.IsKeyed) {after : Meeting}
    {change : Participant → Participant}
    (equality :
      after.participants =
        meeting.participants.map fun _ participant => change participant)
    (kept : ∀ participant, (change participant).identity =
      participant.identity) :
    after.IsKeyed := by
  rw [IsKeyed, equality]
  exact Table.Holds.map keyed fun _ participant _ same =>
    (kept participant).trans same

theorem IsKeyed.modify (keyed : meeting.IsKeyed) {after : Meeting}
    {identity : String} {change : Participant → Participant}
    (equality :
      after.participants =
        meeting.participants.modify identity change)
    (kept : ∀ participant, (change participant).identity =
      participant.identity) :
    after.IsKeyed := by
  rw [IsKeyed, equality]
  exact Table.Holds.modify keyed
    (fun participant same => (kept participant).trans same)
    fun _ _ _ kept => kept

/-- A move leaves every participant under their own identity. -/
theorem Effect.isKeyed {recorder : Recorder} {move : Move}
    {after : Meeting} (keyed : meeting.IsKeyed)
    (effect : Effect recorder meeting move after) :
    after.IsKeyed := by
  cases effect with
  | joined => exact keyed.insert rfl rfl
  | left => exact keyed.erase rfl
  | woken =>
      rw [requestOpenings_eq]
      exact keyed.map rfl (Participant.identity_wake _)
  | retried hears found lacks isPaused =>
      have same := keyed _ _ found
      exact keyed.insert rfl same
  | spoken => exact keyed.modify rfl fun _ => rfl
  | openingFailed => exact keyed.modify rfl fun _ => rfl
  | attached found begun tracked held =>
      have same := keyed _ _ tracked
      exact keyed.insert rfl same
  | discarded found begun tracked held =>
      have same := keyed _ _ tracked
      exact keyed.insert rfl same
  | paused => exact keyed.map rfl Participant.identity_hush
  | collected => exact keyed.map rfl Participant.identity_release
  | finished =>
      rw [finish_eq]
      exact keyed
  | _ => exact keyed

theorem isKeyed_new (options : MeetingOptions)
    (storeOptions : StoreOptions) (files : FileTree) (began : Moment) :
    (Meeting.new options storeOptions files began).IsKeyed := by
  intro identity participant found
  simp [Meeting.new] at found

theorem start_isKeyed {options : MeetingOptions}
    {storeOptions : StoreOptions} {files : FileTree} {began : Moment}
    {begun : Meeting}
    (started :
      (Meeting.new options storeOptions files began).start =
        (begun, .ok ())) : begun.IsKeyed := by
  obtain ⟨-, rfl⟩ := start_ok started
  exact isKeyed_new options storeOptions files began

/-! ## Runs -/

theorem performAll_append (meeting : Meeting) (front back : List Move) :
    meeting.performAll (front ++ back) =
      (meeting.performAll front).performAll back :=
  List.foldl_append

theorem takesAll_append (front back : List Move) :
    ∀ meeting : Meeting,
      meeting.takesAll (front ++ back) =
        (meeting.takesAll front &&
          (meeting.performAll front).takesAll back) := by
  induction front with
  | nil =>
      intro meeting
      simp [takesAll, performAll]
  | cons move front inductionHypothesis =>
      intro meeting
      rw [List.cons_append, takesAll, takesAll, inductionHypothesis,
        Bool.and_assoc]
      rfl

/-- `meeting.listensToAll moves` means that the meeting is told of no event while
it is being closed, when the moves are done one after another. -/
def listensToAll (meeting : Meeting) : List Move → Bool
  | [] => true
  | move :: moves =>
      meeting.listensTo move && (meeting.perform move).listensToAll moves

theorem listensToAll_append (front back : List Move) :
    ∀ meeting : Meeting,
      meeting.listensToAll (front ++ back) =
        (meeting.listensToAll front &&
          (meeting.performAll front).listensToAll back) := by
  induction front with
  | nil =>
      intro meeting
      simp [listensToAll, performAll]
  | cons move front inductionHypothesis =>
      intro meeting
      rw [List.cons_append, listensToAll, listensToAll, inductionHypothesis,
        Bool.and_assoc]
      rfl

/-- What holds before a run, and after every outcome of one of its moves, holds
after the run. What holds may depend on the moves made so far. -/
theorem performAll_induction {motive : List Move → Meeting → Prop}
    {begun : Meeting} (keyed : begun.IsKeyed) (base : motive [] begun)
    {moves : List Move} (taken : begun.takesAll moves = true)
    (step :
      ∀ (done : List Move) (move : Move) (meeting after : Meeting),
        move ∈ moves →
        meeting.IsKeyed →
        motive done meeting →
        Outcome meeting move after →
        motive (done ++ [move]) after) :
    motive moves (begun.performAll moves) := by
  have reached :
      (begun.performAll moves).IsKeyed ∧
        motive moves (begun.performAll moves) := by
    induction moves using List.reverseRecOn with
    | nil => exact ⟨keyed, base⟩
    | append_singleton done move inductionHypothesis =>
        rw [takesAll_append, Bool.and_eq_true] at taken
        obtain ⟨takenBefore, takenLast⟩ := taken
        obtain ⟨stillKeyed, held⟩ :=
          inductionHypothesis takenBefore
            fun earlier other meeting after member =>
              step earlier other meeting after
                (List.mem_append_left _ member)
        have outcome :
            Outcome (begun.performAll done) move
              ((begun.performAll done).perform move) :=
          perform_outcome stillKeyed (by simpa [takesAll] using takenLast)
        rw [performAll_append]
        exact
          ⟨outcome.isKeyed stillKeyed,
            step done move _ _ (by simp) stillKeyed held outcome⟩
  exact reached.2

/-- After every run, every participant is found under their own identity. -/
theorem reached_isKeyed {options : MeetingOptions}
    {storeOptions : StoreOptions} {files : FileTree} {began : Moment}
    {begun : Meeting} {moves : List Move}
    (started :
      (Meeting.new options storeOptions files began).start =
        (begun, .ok ()))
    (taken : begun.takesAll moves = true) :
    (begun.performAll moves).IsKeyed := by
  have keyed := start_isKeyed started
  exact performAll_induction (motive := fun _ meeting => meeting.IsKeyed)
    keyed keyed taken
    fun _ _ _ _ _ stillKeyed _ outcome => outcome.isKeyed stillKeyed

/-! ## A small meeting -/

/-- A meeting that was not started yet, without idle checks, and with a store
that writes records. -/
def small : Meeting :=
  Meeting.new ⟨none, 60000, 10000, Provider.deepgram.settings "de"⟩
    ⟨"standup", "deepgram", .records, false, Text.bytesOf "logs",
      Date.epoch.atTime .midnight⟩
    (FileTree.empty .epoch) (Date.epoch.atTime .midnight)

theorem small_starts : small.start = (small.start.1, .ok ()) :=
  Prod.ext rfl (by decide +kernel)

end MeetingLog.Meeting
