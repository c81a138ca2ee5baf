import Mathlib.Data.List.Perm.Subperm
import MeetingLog.Proofs.Meeting.Attendance
import MeetingLog.Proofs.Meeting.Calm
import MeetingLog.Proofs.Meeting.Custody

/-!
# Silence

Participants show that they are there by joining, by saying something and by
being woken up with the group. Only one instant is kept for each of them, and
it is that of the last sign they have shown since they joined, whatever else
has happened in between. So a check pauses the group exactly if there are
sessions and everybody with one has shown no sign for the timeout.
-/

namespace MeetingLog

open MeetingLog.Calendar
open MeetingLog.Files
open scoped List

/-! ## Signs -/

/-- Something that happened to a meeting: when it did, whether the meeting took
events then, and the records that the store has taken for it. -/
structure Happening where
  elapsed : Nat
  isListening : Bool
  move : Move
  records : List CoreRecord

namespace Happening

def joins (identity : String) (happening : Happening) : Bool :=
  (kindsOf identity happening.records).contains .joined

def wakes (identity : String) (happening : Happening) : Bool :=
  (kindsOf identity happening.records).contains .resumed

/-- `speaks identity happening` means that the participant said something that
is not blank, and that the meeting did not drop it. -/
def speaks (identity : String) (happening : Happening) : Bool :=
  match happening.move with
  | .handle (.utterance other text) =>
      happening.isListening && other == identity && !Text.allBlank text
  | .tell (.utterance other text) =>
      other == identity && !Text.allBlank text
  | _ => false

end Happening

/-- What happened after the latest joining of a participant, the latest
first. -/
def sinceJoining (identity : String) (history : List Happening) :
    List Happening :=
  history.reverse.takeWhile fun happening => !happening.joins identity

/-- When a participant showed the last sign: the latest of the instant at which
they joined last and of those at which they said something or were woken up
since. -/
def lastSign? (identity : String) (history : List Happening) : Option Nat :=
  let signs :=
    (sinceJoining identity history).filter fun happening =>
      happening.speaks identity || happening.wakes identity
  (history.reverse.find? (Happening.joins identity)).map fun joining =>
    (signs.map Happening.elapsed).foldr max joining.elapsed

theorem lastSign?_append_of_joins {identity : String} {happening : Happening}
    (joins : happening.joins identity = true) (history : List Happening) :
    lastSign? identity (history ++ [happening]) = some happening.elapsed := by
  simp [lastSign?, sinceJoining, joins]

theorem lastSign?_append {identity : String} {happening : Happening}
    (stays : happening.joins identity = false) (history : List Happening) :
    lastSign? identity (history ++ [happening]) =
      (lastSign? identity history).map fun last =>
        if happening.speaks identity || happening.wakes identity then
          max happening.elapsed last
        else last := by
  have found : (history ++ [happening]).reverse.find?
      (Happening.joins identity) =
        history.reverse.find? (Happening.joins identity) := by
    simp [stays]
  have since : sinceJoining identity (history ++ [happening]) =
      happening :: sinceJoining identity history := by
    simp [sinceJoining, stays]
  rw [lastSign?, lastSign?, found, since, Option.map_map]
  simp only [List.filter_cons]
  split
  · rfl
  · rfl

namespace Meeting

variable {meeting after : Meeting} {move : Move}

/-- The move as something that happened when it turned the meeting into
`after`. -/
def happening (meeting after : Meeting) (move : Move) : Happening :=
  ⟨meeting.elapsed, !meeting.isClosed, move,
    after.records.drop meeting.records.length⟩

/-- What happens when the moves are done one after another. -/
def history (meeting : Meeting) : List Move → List Happening
  | [] => []
  | move :: moves =>
      let after := meeting.perform move
      meeting.happening after move :: after.history moves

/-- The instant that is kept for a participant, if they are tracked. -/
def lastSpeech? (meeting : Meeting) (identity : String) : Option Nat :=
  (meeting.participants.get? identity).map Participant.lastSpeech

/-- `Sign identity happening before later` means that the instant kept for a
participant may become `later` when something happens. -/
inductive Sign (identity : String) (happening : Happening)
    (before : Option Nat) : Option Nat → Prop
  | gone : Sign identity happening before none
  | joined :
      happening.joins identity = true →
      Sign identity happening before (some happening.elapsed)
  | shown {last : Nat} :
      happening.joins identity = false →
      (happening.speaks identity || happening.wakes identity) = true →
      before = some last →
      Sign identity happening before (some happening.elapsed)
  | kept :
      happening.joins identity = false →
      (happening.speaks identity || happening.wakes identity) = false →
      Sign identity happening before before

theorem records_happening {records : List CoreRecord}
    (added : after.records = meeting.records ++ records) (move : Move) :
    (meeting.happening after move).records = records := by
  rw [happening, added, List.drop_left]

theorem speaks_of_isClosed (isClosed : meeting.isClosed = true)
    (after : Meeting) (event : RoomEvent) (identity : String) :
    (meeting.happening after (.handle event)).speaks identity = false := by
  cases event <;> simp [happening, Happening.speaks, isClosed]

theorem speaks_of_nothing (always : move.alwaysApplies = false)
    (identity : String) :
    (meeting.happening after move).speaks identity = false := by
  cases move with
  | handle event => cases always
  | tell event => cases always
  | _ => rfl

/-- Of the events that the meeting takes note of, only utterances are said. -/
theorem speaks_of_hears {event : RoomEvent} (hears : meeting.Hears move event)
    (after : Meeting) (identity : String) :
    (meeting.happening after move).speaks identity =
      match event with
      | .utterance other text => other == identity && !Text.allBlank text
      | _ => false := by
  rcases hears with rfl | ⟨rfl, isOpen⟩
  · cases event <;> rfl
  · cases event with
    | utterance other text => simp [happening, Happening.speaks, isOpen]
    | _ => rfl

theorem lastSpeech?_of_get? {identity : String} {participant : Participant}
    (found : meeting.participants.get? identity = some participant) :
    meeting.lastSpeech? identity = some participant.lastSpeech := by
  rw [lastSpeech?, found, Option.map_some]

namespace Sign

variable {identity : String} {records : List CoreRecord}
variable {word : List LifecycleKind}

theorem ofJoining (added : after.records = meeting.records ++ records)
    (kinds : kindsOf identity records = word)
    (joining : LifecycleKind.joined ∈ word)
    (fresh : after.lastSpeech? identity = some meeting.elapsed) :
    Sign identity (meeting.happening after move)
      (meeting.lastSpeech? identity) (after.lastSpeech? identity) := by
  have joins : (meeting.happening after move).joins identity = true := by
    rw [Happening.joins, records_happening added, kinds]
    exact List.contains_iff_mem.2 joining
  rw [fresh]
  exact .joined joins

theorem ofShowing {last : Nat}
    (added : after.records = meeting.records ++ records)
    (kinds : kindsOf identity records = word)
    (stays : LifecycleKind.joined ∉ word)
    (shows : (meeting.happening after move).speaks identity = true ∨
      LifecycleKind.resumed ∈ word)
    (before : meeting.lastSpeech? identity = some last)
    (fresh : after.lastSpeech? identity = some meeting.elapsed) :
    Sign identity (meeting.happening after move)
      (meeting.lastSpeech? identity) (after.lastSpeech? identity) := by
  have noJoining :
      (meeting.happening after move).joins identity = false := by
    rw [Happening.joins, records_happening added, kinds]
    simpa using stays
  have showing : ((meeting.happening after move).speaks identity ||
      (meeting.happening after move).wakes identity) = true := by
    rw [Bool.or_eq_true, Happening.wakes, records_happening added, kinds]
    exact shows.imp_right List.contains_iff_mem.2
  rw [fresh]
  exact .shown noJoining showing before

theorem ofNothing (added : after.records = meeting.records ++ records)
    (kinds : kindsOf identity records = word)
    (stays : LifecycleKind.joined ∉ word)
    (sleeps : LifecycleKind.resumed ∉ word)
    (unheard : (meeting.happening after move).speaks identity = false)
    (kept : after.lastSpeech? identity = meeting.lastSpeech? identity) :
    Sign identity (meeting.happening after move)
      (meeting.lastSpeech? identity) (after.lastSpeech? identity) := by
  have noJoining :
      (meeting.happening after move).joins identity = false := by
    rw [Happening.joins, records_happening added, kinds]
    simpa using stays
  have noSign : ((meeting.happening after move).speaks identity ||
      (meeting.happening after move).wakes identity) = false := by
    rw [unheard, Happening.wakes, records_happening added, kinds]
    simpa using sleeps
  rw [kept]
  exact .kept noJoining noSign

theorem ofSilence (same : after.records = meeting.records)
    (unheard : (meeting.happening after move).speaks identity = false)
    (kept : after.lastSpeech? identity = meeting.lastSpeech? identity) :
    Sign identity (meeting.happening after move)
      (meeting.lastSpeech? identity) (after.lastSpeech? identity) :=
  ofNothing (same.trans (List.append_nil _).symm) rfl List.not_mem_nil
    List.not_mem_nil unheard kept

end Sign

/-- A move changes the instant kept for a participant exactly if the participant
shows a sign. -/
theorem Outcome.sign (keyed : meeting.IsKeyed)
    (outcome : Outcome meeting move after) (identity : String) :
    Sign identity (meeting.happening after move)
      (meeting.lastSpeech? identity) (after.lastSpeech? identity) := by
  cases outcome with
  | nothing always =>
      exact .ofSilence rfl (speaks_of_nothing always identity) rfl
  | dropped isClosed =>
      exact .ofSilence rfl (speaks_of_isClosed isClosed _ _ identity) rfl
  | joinedAgain hears =>
      exact .ofSilence rfl (speaks_of_hears hears _ identity) rfl
  | leftUnknown hears =>
      exact .ofSilence rfl (speaks_of_hears hears _ identity) rfl
  | trackUnknown hears =>
      exact .ofSilence rfl (speaks_of_hears hears _ identity) rfl
  | trackServed hears =>
      exact .ofSilence rfl (speaks_of_hears hears _ identity) rfl
  | @joined _ other name store files hears absent takes =>
      have kinds := kindsOf_single identity other meeting.clock .joined
      by_cases same : other = identity
      · rw [if_pos same] at kinds
        refine .ofJoining rfl kinds (by decide) ?_
        rw [lastSpeech?, same, Table.get?_insert_self]
        rfl
      · rw [if_neg same] at kinds
        refine .ofNothing rfl kinds (by decide) (by decide)
          (speaks_of_hears hears _ identity) ?_
        rw [lastSpeech?, Table.get?_insert_of_ne _ (Ne.symm same)]
        rfl
  | @left _ other participant store files hears found takes =>
      have kinds := kindsOf_single identity other meeting.clock .left
      by_cases same : other = identity
      · rw [lastSpeech?, lastSpeech?, same, Table.get?_erase_self]
        exact .gone
      · rw [if_neg same] at kinds
        refine .ofNothing rfl kinds (by decide) (by decide)
          (speaks_of_hears hears _ identity) ?_
        rw [lastSpeech?, Table.get?_erase_of_ne _ (Ne.symm same)]
        rfl
  | @woken _ other participant store files hears found lacks isPaused
      takes =>
      rw [requestOpenings_eq]
      have kinds := kindsOf_woken meeting identity meeting.clock
      by_cases member : identity ∈ meeting.lacking meeting.participants.keys
      · obtain ⟨sleeper, present, sleeps⟩ := mem_lacking_keys.1 member
        rw [if_pos member] at kinds
        refine .ofShowing rfl kinds (by decide) (.inr (by decide))
          (lastSpeech?_of_get? present) ?_
        rw [lastSpeech?, Table.get?_map, present, Option.map_some,
          Option.map_some, Participant.wake, if_pos sleeps]
      · rw [if_neg member] at kinds
        refine .ofNothing rfl kinds (by decide) (by decide)
          (speaks_of_hears hears _ identity) ?_
        rw [lastSpeech?, lastSpeech?, Table.get?_map]
        cases present : meeting.participants.get? identity with
        | none => rfl
        | some served =>
            have hasSession : ¬ served.lacksSession = true := fun sleeps =>
              member (mem_lacking_keys.2 ⟨served, present, sleeps⟩)
            rw [Option.map_some, Option.map_some, Option.map_some,
              Participant.wake, if_neg hasSession]
  | retried hears found lacks isPaused =>
      exact .ofSilence rfl (speaks_of_hears hears _ identity)
        (Table.map_get?_insert Participant.lastSpeech found (by rfl)
          identity)
  | @blank _ other spoken text hears said =>
      have blank : Text.allBlank spoken = true := by
        rw [ofUtterance?_eq] at said
        by_contra notBlank
        rw [if_neg notBlank] at said
        cases said
      refine .ofSilence rfl ?_ rfl
      rw [speaks_of_hears hears]
      simp [blank]
  | @spoken _ other spoken transcript store files hears said takes =>
      have notBlank : Text.allBlank spoken = false := by
        rw [ofUtterance?_eq] at said
        by_contra blank
        rw [if_pos (Bool.eq_true_of_not_eq_false blank)] at said
        cases said
      have kinds : kindsOf identity [.transcript transcript] = [] := rfl
      by_cases same : other = identity
      · have speaks (after : Meeting) :
            (meeting.happening after move).speaks identity = true := by
          rw [speaks_of_hears hears]
          simp [notBlank, same]
        cases present : meeting.participants.get? identity with
        | none =>
            -- What strangers say is put on record, but nothing is kept.
            rw [lastSpeech?, lastSpeech?, same, Table.get?_modify, if_pos rfl,
              present]
            exact .gone
        | some participant =>
            refine .ofShowing rfl kinds (by decide) (.inl (speaks _))
              (lastSpeech?_of_get? present) ?_
            rw [lastSpeech?, same, Table.get?_modify, if_pos rfl, present]
            rfl
      · refine .ofNothing rfl kinds (by decide) (by decide) ?_ ?_
        · rw [speaks_of_hears hears]
          simp [same]
        · rw [lastSpeech?, Table.get?_modify, if_neg (Ne.symm same)]
          rfl
  | openingFailed =>
      exact .ofSilence rfl rfl (Table.map_get?_modify _ _
        Participant.lastSpeech (by exact fun _ => rfl) identity)
  | attached found begun tracked held =>
      exact .ofSilence rfl rfl
        (Table.map_get?_insert Participant.lastSpeech tracked (by rfl)
          identity)
  | discarded found begun tracked held =>
      exact .ofSilence rfl rfl
        (Table.map_get?_insert Participant.lastSpeech tracked (by rfl)
          identity)
  | @paused _ timeout store files isCheck limit isSilent takes =>
      have unheard (after : Meeting) :
          (meeting.happening after move).speaks identity = false := by
        rcases isCheck with rfl | rfl
        · rfl
        · rfl
      have kinds := kindsOf_paused keyed identity meeting.clock
      have stays : LifecycleKind.joined ∉ kindsOf identity
          (meeting.listeners.map (pausedRecord meeting.clock)) := by
        rw [kinds]
        split <;> decide
      have sleeps : LifecycleKind.resumed ∉ kindsOf identity
          (meeting.listeners.map (pausedRecord meeting.clock)) := by
        rw [kinds]
        split <;> decide
      refine .ofNothing rfl rfl stays sleeps (unheard _) ?_
      rw [lastSpeech?, Table.get?_map, Option.map_map, lastSpeech?]
      refine congrArg (Option.map · _) (funext fun participant => ?_)
      rw [Function.comp_apply, Participant.hush]
      split <;> rfl
  | collected =>
      refine .ofSilence rfl rfl ?_
      rw [lastSpeech?, Table.get?_map, Option.map_map]
      rfl
  | finished =>
      rw [finish_eq]
      exact .ofSilence rfl rfl rfl
  | _ => exact .ofSilence rfl rfl rfl

/-! ## Runs -/

/-- `IsTimed history meeting` means that the instant kept for everybody who is
tracked is that of their last sign, and has come. -/
def IsTimed (history : List Happening) (meeting : Meeting) : Prop :=
  ∀ identity last, meeting.lastSpeech? identity = some last →
    lastSign? identity history = some last ∧ last ≤ meeting.elapsed

theorem Outcome.elapsed_le (outcome : Outcome meeting move after) :
    meeting.elapsed ≤ after.elapsed := by
  cases outcome with
  | woken => rw [requestOpenings_eq]
  | ticked milliseconds => exact Nat.le_add_right _ _
  | finished => rw [finish_eq]
  | _ => exact Nat.le_refl _

theorem Outcome.isTimed {past : List Happening} (keyed : meeting.IsKeyed)
    (timed : meeting.IsTimed past) (outcome : Outcome meeting move after) :
    after.IsTimed (past ++ [meeting.happening after move]) := by
  intro identity last found
  have later := outcome.elapsed_le
  have sign := outcome.sign keyed identity
  generalize after.lastSpeech? identity = instant at found sign
  cases sign with
  | gone => cases found
  | joined joins =>
      obtain rfl := Option.some.inj found
      exact ⟨lastSign?_append_of_joins joins past, later⟩
  | shown stays shows before =>
      obtain rfl := Option.some.inj found
      obtain ⟨signed, atMost⟩ := timed identity _ before
      refine ⟨?_, later⟩
      rw [lastSign?_append stays, signed, Option.map_some, if_pos shows]
      exact congrArg some (Nat.max_eq_left atMost)
  | kept stays silent =>
      obtain ⟨signed, atMost⟩ := timed identity last found
      refine ⟨?_, atMost.trans later⟩
      rw [lastSign?_append stays, signed, Option.map_some, silent]
      rfl

theorem performAll_isTimed {moves : List Move} {past : List Happening}
    (keyed : meeting.IsKeyed) (timed : meeting.IsTimed past)
    (taken : meeting.takesAll moves = true) :
    (meeting.performAll moves).IsTimed (past ++ meeting.history moves) := by
  -- The past grows by what happens in each move.
  induction moves generalizing meeting past with
  | nil =>
      rw [history, List.append_nil]
      exact timed
  | cons move others inductionHypothesis =>
      rw [takesAll, Bool.and_eq_true] at taken
      have outcome := perform_outcome keyed taken.1
      have later := outcome.isTimed keyed timed
      rw [history, List.append_cons]
      exact inductionHypothesis (outcome.isKeyed keyed) later taken.2

/-! ## Pauses -/

theorem IsAttached.exists_listener (keyed : meeting.IsKeyed)
    {identity : String} {session : Session}
    (attached : meeting.IsAttached identity session) :
    ∃ participant ∈ meeting.listeners,
      meeting.participants.get? identity = some participant := by
  obtain ⟨participant, found, held⟩ := attached
  have same := keyed identity participant found
  have listens : participant.session.isSome = true := by
    rw [held]
    rfl
  refine ⟨participant, (mem_listeners_iff keyed participant).2 ?_, found⟩
  rw [same]
  exact ⟨found, listens⟩

theorem exists_isAttached (keyed : meeting.IsKeyed) {participant : Participant}
    (member : participant ∈ meeting.listeners) :
    ∃ session, meeting.IsAttached participant.identity session := by
  obtain ⟨found, listens⟩ := (mem_listeners_iff keyed participant).1 member
  obtain ⟨session, held⟩ := Option.isSome_iff_exists.1 listens
  exact ⟨session, participant, found, held⟩

/-- `HasFallenSilent history timeout meeting` means that there are sessions and
that everybody with one has shown no sign for the timeout. -/
def HasFallenSilent (history : List Happening) (timeout : Nat)
    (meeting : Meeting) : Prop :=
  (∃ identity session, meeting.IsAttached identity session) ∧
    ∀ identity session, meeting.IsAttached identity session →
      ∃ last, lastSign? identity history = some last ∧
        last + timeout ≤ meeting.elapsed

theorem isSilent_iff {history : List Happening} {timeout : Nat}
    (keyed : meeting.IsKeyed) (timed : meeting.IsTimed history) :
    meeting.isSilent timeout = true ↔
      meeting.HasFallenSilent history timeout := by
  rw [isSilent, Bool.and_eq_true, List.all_eq_true]
  constructor
  · rintro ⟨somebody, silent⟩
    constructor
    · obtain ⟨participant, member⟩ :=
        List.exists_mem_of_ne_nil meeting.listeners (by simpa using somebody)
      exact ⟨participant.identity, exists_isAttached keyed member⟩
    · intro identity session attached
      obtain ⟨participant, member, found⟩ := attached.exists_listener keyed
      obtain ⟨signed, atMost⟩ :=
        timed identity _ (lastSpeech?_of_get? found)
      have long : timeout ≤ meeting.silence participant :=
        of_decide_eq_true (silent participant member)
      refine ⟨participant.lastSpeech, signed, ?_⟩
      rw [silence] at long
      omega
  · rintro ⟨⟨identity, session, attached⟩, silent⟩
    constructor
    · obtain ⟨participant, member, -⟩ := attached.exists_listener keyed
      simpa using List.ne_nil_of_mem member
    · intro participant member
      obtain ⟨session, attached⟩ := exists_isAttached keyed member
      obtain ⟨last, signed, long⟩ :=
        silent participant.identity session attached
      obtain ⟨found, -⟩ := (mem_listeners_iff keyed participant).1 member
      obtain ⟨kept, -⟩ := timed _ _ (lastSpeech?_of_get? found)
      obtain rfl := Option.some.inj (signed.symm.trans kept)
      rw [decide_eq_true_eq, silence]
      omega

/-- `GroupPause meeting farewells after` means that the meeting has become
`after` because the group was paused, and that the farewells are the sessions
that were taken from the participants. -/
structure GroupPause (meeting : Meeting) (farewells : List Farewell)
    (after : Meeting) : Prop where
  sessions : ∀ identity session,
    ⟨identity, session⟩ ∈ farewells ↔ meeting.IsAttached identity session
  inOrder :
    (farewells.map fun farewell => Text.bytesOf farewell.identity).Pairwise
      (· < ·)
  silenced : ∀ farewell ∈ farewells,
    after.participants.get? farewell.identity =
      (meeting.participants.get? farewell.identity).map
        Participant.fallSilent
  untouched : ∀ identity, (∀ session, ¬ meeting.IsAttached identity session) →
    after.participants.get? identity = meeting.participants.get? identity
  stored : Store.Takes meeting.store meeting.files
    (farewells.map fun farewell =>
      .lifecycle ⟨meeting.clock, farewell.identity, .paused⟩)
    after.store after.files
  /-- Nothing else has changed, but for what was noted. -/
  changed : after =
    { meeting with
      store := after.store
      files := after.files
      participants := after.participants
      isPaused := true
      farewells := meeting.farewells ++ farewells
      leaving := meeting.leaving ++ farewells
      records := meeting.records ++ farewells.map fun farewell =>
        .lifecycle ⟨meeting.clock, farewell.identity, .paused⟩
      trace := after.trace }
  /-- The sessions are then asked to close, each of them once. -/
  closed : (after.performAll (farewells.map .beginClosing)).calls =
    meeting.calls ++ farewells.map fun farewell =>
      .askedClose farewell.identity farewell.session

/-- Sessions that are leaving are asked to close one after another. -/
theorem calls_performAll_beginClosing {farewells : List Farewell}
    (leaving : farewells <+~ meeting.leaving) :
    (meeting.performAll (farewells.map .beginClosing)).calls =
      meeting.calls ++ farewells.map fun farewell =>
        .askedClose farewell.identity farewell.session := by
  induction farewells generalizing meeting with
  | nil => exact (List.append_nil _).symm
  | cons farewell others inductionHypothesis =>
      have member : meeting.leaving.contains farewell = true :=
        List.contains_iff_mem.2 (leaving.subset List.mem_cons_self)
      have performed : meeting.perform (.beginClosing farewell) =
          meeting.beginClosing farewell :=
        if_pos member
      have stillLeaving :
          others <+~ (meeting.beginClosing farewell).leaving := by
        have remaining := leaving.erase farewell
        rwa [List.erase_cons_head] at remaining
      rw [List.map_cons, performAll, List.foldl_cons, performed]
      refine (inductionHypothesis stillLeaving).trans ?_
      rw [List.map_cons, List.append_cons]
      rfl

theorem map_identity_remaining (meeting : Meeting) :
    meeting.remainingSessions.map Farewell.identity =
      meeting.listeners.map Participant.identity := by
  rw [remainingSessions, listeners]
  induction meeting.participants.values with
  | nil => rfl
  | cons participant others inductionHypothesis =>
      cases held : participant.session with
      | none => simpa [held] using inductionHypothesis
      | some session => simpa [held] using inductionHypothesis

theorem groupPause_of_pause {timeout : Nat} {farewells : List Farewell}
    (keyed : meeting.IsKeyed)
    (paused : meeting.pause timeout = (after, .ok farewells)) :
    meeting.GroupPause farewells after := by
  obtain ⟨rfl, store, files, takes, rfl⟩ := pause_ok keyed paused
  have identities := map_identity_remaining meeting
  have records : meeting.listeners.map (pausedRecord meeting.clock) =
      meeting.remainingSessions.map fun farewell =>
        .lifecycle ⟨meeting.clock, farewell.identity, .paused⟩ := by
    have mapped := congrArg (List.map fun identity =>
      CoreRecord.lifecycle ⟨meeting.clock, identity, .paused⟩) identities
    rw [List.map_map, List.map_map] at mapped
    exact mapped.symm
  have attached := mem_remainingSessions_iff keyed
  have inOrder := (listeners_ascending keyed).map (R := (· < ·))
    Text.bytesOf fun _ _ => Text.bytesOf_lt
  constructor
  · exact attached
  · rw [← identities, List.map_map] at inOrder
    exact inOrder
  · intro farewell member
    obtain ⟨participant, found, held⟩ :=
      (attached farewell.identity farewell.session).1 member
    have listens : participant.session.isSome = true := by
      rw [held]
      rfl
    rw [Table.get?_map, found, Option.map_some, Option.map_some,
      Participant.hush, if_pos listens]
  · intro identity absent
    rw [Table.get?_map]
    cases found : meeting.participants.get? identity with
    | none => rfl
    | some participant =>
        have notListening : ¬ participant.session.isSome = true := by
          intro listens
          obtain ⟨session, held⟩ := Option.isSome_iff_exists.1 listens
          exact absent session ⟨participant, found, held⟩
        rw [Option.map_some, Participant.hush, if_neg notListening]
  · rw [← records]
    exact takes
  · rw [← records]
  · exact calls_performAll_beginClosing (List.sublist_append_right _ _).subperm

/-! ## The check -/

theorem Outcome.options_eq (outcome : Outcome meeting move after) :
    after.options = meeting.options := by
  cases outcome with
  | woken => rw [requestOpenings_eq]
  | finished => rw [finish_eq]
  | _ => rfl

/-- What is known of a meeting after a run. -/
theorem reached_isTimed {options : MeetingOptions}
    {storeOptions : StoreOptions} {files : FileTree} {began : Moment}
    {begun : Meeting} {moves : List Move}
    (started :
      (Meeting.new options storeOptions files began).start =
        (begun, .ok ()))
    (taken : begun.takesAll moves = true) :
    (begun.performAll moves).IsKeyed ∧
      (begun.performAll moves).IsTimed (begun.history moves) ∧
      (begun.performAll moves).options = options := by
  obtain ⟨-, begun_eq⟩ := start_ok started
  have keyed := start_isKeyed started
  have timed : begun.IsTimed [] := by
    intro identity last found
    rw [begun_eq] at found
    cases found
  have sameOptions : begun.options = options := by
    rw [begun_eq]
    rfl
  refine ⟨reached_isKeyed started taken,
    performAll_isTimed keyed timed taken, ?_⟩
  exact performAll_induction
    (motive := fun _ meeting => meeting.options = options)
    keyed sameOptions taken
    fun _ _ _ _ _ _ same outcome => outcome.options_eq.trans same

theorem perform_check_of_isSilent {timeout : Nat} (keyed : meeting.IsKeyed)
    (isCheck : move = .checkIdle ∨ move = .checkRegularly)
    (limit : meeting.options.idleTimeout = some timeout)
    (silent : meeting.isSilent timeout = true)
    (taken : meeting.takes move = true) :
    ∃ farewells, meeting.checkIdle.2 = .ok (some farewells) ∧
      meeting.GroupPause farewells (meeting.perform move) := by
  have checked := checkIdle_of_isSilent limit silent
  have succeeds : meeting.checkIdle.2.isOk = true := by
    rcases isCheck with rfl | rfl
    · exact taken
    · exact taken
  generalize paused : meeting.pause timeout = result at checked
  obtain ⟨after, error | farewells⟩ := result
  · rw [checked] at succeeds
    cases succeeds
  · have pause := groupPause_of_pause keyed paused
    refine ⟨farewells, congrArg Prod.snd checked, ?_⟩
    rcases isCheck with rfl | rfl
    · rw [perform, checked]
      exact pause
    · rw [perform, checked]
      exact pause

/-- A check pauses the group exactly if there are sessions and everybody with
one has shown no sign for the timeout. Otherwise it changes nothing. -/
theorem group_pauses_once_all_are_silent {options : MeetingOptions}
    {storeOptions : StoreOptions} {files : FileTree} {began : Moment}
    {begun : Meeting} {moves : List Move} {check : Move} {timeout : Nat}
    (started :
      (Meeting.new options storeOptions files began).start =
        (begun, .ok ()))
    (limit : options.idleTimeout = some timeout)
    (isCheck : check = .checkIdle ∨ check = .checkRegularly)
    (taken : begun.takesAll (moves ++ [check]) = true) :
    let history := begun.history moves
    let reached := begun.performAll moves
    let checked := reached.perform check
    (∀ identity session, reached.IsAttached identity session →
        ∃ last, lastSign? identity history = some last ∧
          last ≤ reached.elapsed) ∧
      ((∃ farewells, reached.checkIdle.2 = .ok (some farewells)) ↔
        reached.HasFallenSilent history timeout) ∧
      (∀ farewells, reached.checkIdle.2 = .ok (some farewells) →
        reached.GroupPause farewells checked) ∧
      (¬ reached.HasFallenSilent history timeout →
        reached.checkIdle.2 = .ok none ∧ checked = reached) := by
  intro history reached checked
  rw [takesAll_append, Bool.and_eq_true] at taken
  obtain ⟨keyed, timed, sameOptions⟩ := reached_isTimed started taken.1
  have stillLimited : reached.options.idleTimeout = some timeout := by
    rw [sameOptions, limit]
  have due : reached.isSilent timeout = true ↔
      reached.HasFallenSilent history timeout :=
    isSilent_iff keyed timed
  have takes : reached.takes check = true := by
    simpa [takesAll] using taken.2
  have signs (identity : String) (session : Session)
      (attached : reached.IsAttached identity session) :
      ∃ last, lastSign? identity history = some last ∧
        last ≤ reached.elapsed := by
    obtain ⟨participant, found, -⟩ := attached
    exact ⟨_, timed identity _ (lastSpeech?_of_get? found)⟩
  cases silent : reached.isSilent timeout with
  | true =>
      obtain ⟨farewells, result, pause⟩ :=
        perform_check_of_isSilent keyed isCheck stillLimited silent takes
      have fallen := due.1 silent
      refine ⟨signs, iff_of_true ⟨farewells, result⟩ fallen, ?_, ?_⟩
      · intro others resultToo
        rw [result] at resultToo
        obtain rfl := Option.some.inj (Except.ok.inj resultToo)
        exact pause
      · intro notFallen
        exact absurd fallen notFallen
  | false =>
      have result : reached.checkIdle = (reached, .ok none) :=
        checkIdle_of_not_isSilent stillLimited silent
      have nothing : checked = reached := by
        rcases isCheck with rfl | rfl
        · exact congrArg Prod.fst result
        · show reached.perform .checkRegularly = reached
          rw [perform, result]
      have notFallen : ¬ reached.HasFallenSilent history timeout := by
        intro fallen
        rw [due.2 fallen] at silent
        cases silent
      have notPaused (farewells : List Farewell) :
          ¬ reached.checkIdle.2 = .ok (some farewells) := by
        rw [result]
        intro paused
        cases paused
      refine ⟨signs, iff_of_false ?_ notFallen, ?_, ?_⟩
      · rintro ⟨farewells, paused⟩
        exact notPaused farewells paused
      · intro farewells paused
        exact absurd paused (notPaused farewells)
      · intro _
        exact ⟨congrArg Prod.snd result, nothing⟩

/-- Two join and get sessions, and one of them says something later. -/
def speakingUp : List Move :=
  [.handle (.joined "bob" none), .handle (.joined "ada" none),
    .beginOpening 0, .beginOpening 1, .finishOpening 0 (.opened "first"),
    .finishOpening 1 (.opened "second"), .tick 40000,
    .handle (.utterance "ada" "Hello"), .tick 30000]

/-- Nobody says anything more. -/
def sayingNothing : List Move :=
  speakingUp ++ [.checkRegularly, .tick 30000]

theorem group_pauses_once_all_are_silent_of_sayingNothing :
    let begun := resting.start.1
    let early := begun.performAll speakingUp
    let late := begun.performAll sayingNothing
    resting.start = (begun, .ok ()) ∧
      resting.options.idleTimeout = some 60000 ∧
      begun.takesAll (speakingUp ++ [.checkRegularly]) = true ∧
      begun.takesAll (sayingNothing ++ [.checkIdle]) = true ∧
      lastSign? "ada" (begun.history sayingNothing) = some 40000 ∧
      lastSign? "bob" (begun.history sayingNothing) = some 0 ∧
      ¬ early.HasFallenSilent (begun.history speakingUp) 60000 ∧
      late.HasFallenSilent (begun.history sayingNothing) 60000 ∧
      late.GroupPause [⟨"ada", 1, "second"⟩, ⟨"bob", 0, "first"⟩]
        (late.perform .checkIdle) := by
  intro begun early late
  have started : resting.start = (begun, .ok ()) :=
    Prod.ext rfl (by decide +kernel)
  have takenEarly :
      begun.takesAll (speakingUp ++ [.checkRegularly]) = true := by
    decide +kernel
  have takenLate : begun.takesAll (sayingNothing ++ [.checkIdle]) = true := by
    decide +kernel
  have notYet : early.checkIdle.2 = .ok none := by decide +kernel
  have farewells : late.checkIdle.2 =
      .ok (some [⟨"ada", 1, "second"⟩, ⟨"bob", 0, "first"⟩]) := by
    decide +kernel
  obtain ⟨-, dueEarly, -⟩ :=
    group_pauses_once_all_are_silent started rfl (.inr rfl) takenEarly
  obtain ⟨-, dueLate, pause, -⟩ :=
    group_pauses_once_all_are_silent started rfl (.inl rfl) takenLate
  have notSilent :
      ¬ early.HasFallenSilent (begun.history speakingUp) 60000 := by
    intro silent
    obtain ⟨others, result⟩ := dueEarly.2 silent
    rw [notYet] at result
    cases result
  exact ⟨started, rfl, takenEarly, takenLate, by decide +kernel,
    by decide +kernel, notSilent, dueLate.1 ⟨_, farewells⟩,
    pause _ farewells⟩

end Meeting
end MeetingLog
