import MeetingLog.Proofs.Meeting.Course
import MeetingLog.Proofs.Meeting.Runs

/-!
# Presence on record

What goes on record about the presence of a participant leads to the presence
that the participant has. Every run can be followed loosely. It can be followed
in order exactly if whoever is woken up was paused, and whoever is paused was
not.
-/

namespace MeetingLog

open MeetingLog.Calendar
open MeetingLog.Files

/-- What a record says about the presence of a participant. -/
def CoreRecord.kindFor? (identity : String) : CoreRecord → Option LifecycleKind
  | .transcript _ => none
  | .lifecycle entry =>
      if entry.participant = identity then some entry.kind else none

/-- What is on record about the presence of a participant, in order. -/
def kindsOf (identity : String) (records : List CoreRecord) :
    List LifecycleKind :=
  records.filterMap (CoreRecord.kindFor? identity)

theorem kindsOf_append (identity : String) (front back : List CoreRecord) :
    kindsOf identity (front ++ back) =
      kindsOf identity front ++ kindsOf identity back :=
  List.filterMap_append

theorem kindsOf_single (identity other : String) (time : ClockTime)
    (kind : LifecycleKind) :
    kindsOf identity [.lifecycle ⟨time, other, kind⟩] =
      if other = identity then [kind] else [] := by
  simp only [kindsOf, List.filterMap_cons, CoreRecord.kindFor?]
  by_cases same : other = identity
  · rw [if_pos same, if_pos same]
    rfl
  · rw [if_neg same, if_neg same]
    rfl

/-- Records of one kind about different participants. -/
theorem kindsOf_map (identity : String) (time : ClockTime)
    (kind : LifecycleKind) {identities : List String}
    (distinct : identities.Nodup) :
    kindsOf identity
        (identities.map fun other => .lifecycle ⟨time, other, kind⟩) =
      if identity ∈ identities then [kind] else [] := by
  induction identities with
  | nil => rfl
  | cons other others inductionHypothesis =>
      obtain ⟨notLater, distinctOthers⟩ := List.nodup_cons.1 distinct
      rw [List.map_cons, ← List.singleton_append, kindsOf_append,
        kindsOf_single, inductionHypothesis distinctOthers]
      by_cases same : other = identity
      · subst same
        rw [if_pos rfl, if_neg notLater, if_pos List.mem_cons_self]
        rfl
      · rw [if_neg same, List.nil_append]
        simp only [List.mem_cons, Ne.symm same, false_or]

namespace Meeting

variable {meeting after : Meeting} {move : Move}

/-- The presence of a participant, if they are tracked. -/
def presence? (meeting : Meeting) (identity : String) : Option Presence :=
  (meeting.participants.get? identity).map Participant.presence

/-- `wakesFor meeting identity` means that an audio track of the participant
wakes up the group. -/
def wakesFor (meeting : Meeting) (identity : String) : Bool :=
  meeting.isPaused &&
    (meeting.participants.get? identity).any Participant.lacksSession

/-- `wakes meeting move` means that the move is an audio track that wakes up the
group. -/
def wakes (meeting : Meeting) : Move → Bool
  | .handle (.trackSubscribed identity) =>
      !meeting.isClosed && meeting.wakesFor identity
  | .tell (.trackSubscribed identity) => meeting.wakesFor identity
  | _ => false

/-- `fallsSilent meeting` means that a check pauses the group. -/
def fallsSilent (meeting : Meeting) : Bool :=
  meeting.options.idleTimeout.any meeting.isSilent

/-- `pauses meeting move` means that the move is a check that pauses the
group. -/
def pauses (meeting : Meeting) : Move → Bool
  | .checkIdle | .checkRegularly => meeting.fallsSilent
  | _ => false

/-- `isOrderly meeting move` means that whoever the move wakes up is paused, and
that whoever the move pauses is not. -/
def isOrderly (meeting : Meeting) (move : Move) : Bool :=
  (!meeting.wakes move ||
    meeting.participants.values.all fun participant =>
      !participant.lacksSession || participant.presence == .idle) &&
  (!meeting.pauses move ||
    meeting.listeners.all fun participant => participant.presence == .active)

/-- `staysOrderly meeting moves` means that all moves, done one after another,
are orderly. -/
def staysOrderly (meeting : Meeting) : List Move → Bool
  | [] => true
  | move :: moves =>
      meeting.isOrderly move && (meeting.perform move).staysOrderly moves

/-! ## Turns -/

/-- `Turn meeting move after identity word` means that the word may go on record
about a participant when the move turns the meeting into `after`. -/
inductive Turn (meeting : Meeting) (move : Move) (after : Meeting)
    (identity : String) : List LifecycleKind → Prop
  | same :
      after.presence? identity = meeting.presence? identity →
      Turn meeting move after identity []
  | joined :
      meeting.presence? identity = none →
      after.presence? identity = some .active →
      Turn meeting move after identity [.joined]
  | left {presence : Presence} :
      meeting.presence? identity = some presence →
      after.presence? identity = none →
      Turn meeting move after identity [.left]
  | paused {participant : Participant} :
      meeting.pauses move = true →
      participant ∈ meeting.listeners →
      meeting.presence? identity = some participant.presence →
      after.presence? identity = some .idle →
      Turn meeting move after identity [.paused]
  | woken {participant : Participant} :
      meeting.wakes move = true →
      participant ∈ meeting.participants.values →
      participant.lacksSession = true →
      meeting.presence? identity = some participant.presence →
      after.presence? identity = some .active →
      Turn meeting move after identity [.resumed]

/-- The group is woken up by an audio track of somebody without a session. -/
theorem wakes_iff :
    meeting.wakes move = true ↔
      meeting.isPaused = true ∧ ∃ other participant,
        meeting.Hears move (.trackSubscribed other) ∧
          meeting.participants.get? other = some participant ∧
          participant.lacksSession = true := by
  have forOne (other : String) : meeting.wakesFor other = true ↔
      meeting.isPaused = true ∧ ∃ participant,
        meeting.participants.get? other = some participant ∧
          participant.lacksSession = true := by
    rw [wakesFor, Bool.and_eq_true, Option.any_eq_true]
  constructor
  · intro woken
    unfold wakes at woken
    split at woken
    · next other =>
        rw [Bool.and_eq_true, Bool.not_eq_true', forOne] at woken
        obtain ⟨isOpen, isPaused, participant, found⟩ := woken
        exact ⟨isPaused, other, participant, .inr ⟨rfl, isOpen⟩, found⟩
    · next other =>
        obtain ⟨isPaused, participant, found⟩ := (forOne other).1 woken
        exact ⟨isPaused, other, participant, .inl rfl, found⟩
    · cases woken
  · rintro ⟨isPaused, other, participant, rfl | ⟨rfl, isOpen⟩, found⟩
    · exact (forOne other).2 ⟨isPaused, participant, found⟩
    · rw [wakes, isOpen]
      exact (forOne other).2 ⟨isPaused, participant, found⟩

theorem pauses_iff :
    meeting.pauses move = true ↔
      (move = .checkIdle ∨ move = .checkRegularly) ∧
        meeting.fallsSilent = true := by
  cases move <;> simp [pauses]

theorem presence?_of_get? {identity : String} {participant : Participant}
    (found : meeting.participants.get? identity = some participant) :
    meeting.presence? identity = some participant.presence := by
  rw [presence?, found]
  rfl

/-- The presence of nobody changes when a participant that is tracked is changed
in something else. -/
theorem presence?_insert {key : String} {participant changed : Participant}
    (found : meeting.participants.get? key = some participant)
    (equality :
      after.participants = meeting.participants.insert key changed)
    (kept : changed.presence = participant.presence) (identity : String) :
    after.presence? identity = meeting.presence? identity := by
  rw [presence?, presence?, equality]
  exact Table.map_get?_insert Participant.presence found kept identity

theorem presence?_modify {key : String} {change : Participant → Participant}
    (equality :
      after.participants = meeting.participants.modify key change)
    (kept : ∀ participant, (change participant).presence =
      participant.presence) (identity : String) :
    after.presence? identity = meeting.presence? identity := by
  rw [presence?, presence?, equality]
  exact Table.map_get?_modify _ _ Participant.presence kept identity

theorem mem_lacking_keys {identity : String} :
    identity ∈ meeting.lacking meeting.participants.keys ↔
      ∃ participant, meeting.participants.get? identity = some participant ∧
        participant.lacksSession = true := by
  rw [lacking, List.mem_filter, Table.mem_keys, Table.contains]
  cases meeting.participants.get? identity with
  | none => simp
  | some participant => simp

/-- What goes on record about a participant when the group is paused. -/
theorem kindsOf_paused (keyed : meeting.IsKeyed) (identity : String)
    (time : ClockTime) :
    kindsOf identity (meeting.listeners.map (pausedRecord time)) =
      if identity ∈ meeting.listeners.map Participant.identity then [.paused]
      else [] := by
  rw [← kindsOf_map identity time .paused (listeners_identity_nodup keyed),
    List.map_map]
  rfl

/-- What goes on record about a participant when the group wakes up. -/
theorem kindsOf_woken (meeting : Meeting) (identity : String)
    (time : ClockTime) :
    kindsOf identity ((meeting.lacking meeting.participants.keys).map
        (resumedRecord time)) =
      if identity ∈ meeting.lacking meeting.participants.keys then [.resumed]
      else [] :=
  kindsOf_map identity time .resumed
    (meeting.participants.keys_nodup.sublist List.filter_sublist)

/-- What each move adds to the records makes a turn for every participant. -/
theorem Outcome.turns (keyed : meeting.IsKeyed)
    (outcome : Outcome meeting move after) :
    ∃ records, after.records = meeting.records ++ records ∧
      ∀ identity, Turn meeting move after identity
        (kindsOf identity records) := by
  have silent (equality : after.records = meeting.records)
      (kept : ∀ identity,
        after.presence? identity = meeting.presence? identity) :
      ∃ records, after.records = meeting.records ++ records ∧
        ∀ identity, Turn meeting move after identity
          (kindsOf identity records) :=
    ⟨[], by rw [equality, List.append_nil],
      fun identity => .same (kept identity)⟩
  cases outcome with
  | @joined _ identity name store files hears absent takes =>
      refine ⟨_, rfl, fun other => ?_⟩
      rw [kindsOf_single]
      split
      · next same =>
          subst same
          refine .joined ?_ ?_
          · rw [presence?, absent]
            rfl
          · rw [presence?, Table.get?_insert_self]
            rfl
      · next different =>
          refine .same ?_
          rw [presence?, presence?,
            Table.get?_insert_of_ne _ (Ne.symm different)]
  | @left _ identity participant store files hears found takes =>
      refine ⟨_, rfl, fun other => ?_⟩
      rw [kindsOf_single]
      split
      · next same =>
          subst same
          refine .left (presence?_of_get? found) ?_
          rw [presence?, Table.get?_erase, if_pos rfl]
          rfl
      · next different =>
          refine .same ?_
          rw [presence?, presence?, Table.get?_erase,
            if_neg (Ne.symm different)]
  | @woken _ other participant store files hears found lacks isPaused takes =>
      rw [requestOpenings_eq]
      refine ⟨_, rfl, fun identity => ?_⟩
      have wakes : meeting.wakes move = true :=
        wakes_iff.2 ⟨isPaused, other, participant, hears, found, lacks⟩
      rw [kindsOf_woken]
      split
      · next member =>
          obtain ⟨sleeper, present, lacksToo⟩ := mem_lacking_keys.1 member
          have same := keyed identity sleeper present
          refine .woken wakes ((mem_values_iff keyed sleeper).2 ?_)
            lacksToo (presence?_of_get? present) ?_
          · rw [same]
            exact present
          · rw [presence?, Table.get?_map, present, Option.map_some,
              Option.map_some, Participant.wake, if_pos lacksToo]
      · next notLacking =>
          refine .same ?_
          rw [presence?, presence?, Table.get?_map]
          cases present : meeting.participants.get? identity with
          | none => rfl
          | some served =>
              have hasSession : ¬ served.lacksSession = true := fun lacksToo =>
                notLacking (mem_lacking_keys.2 ⟨served, present, lacksToo⟩)
              rw [Option.map_some, Option.map_some, Option.map_some,
                Participant.wake, if_neg hasSession]
  | retried hears found lacks isPaused =>
      exact silent rfl (presence?_insert found rfl rfl)
  | @spoken _ identity text transcript store files hears said takes =>
      have kept (participant : Participant) :
          (participant.speak transcript meeting.elapsed).presence =
            participant.presence :=
        rfl
      exact ⟨[.transcript transcript], rfl, fun other =>
        .same (presence?_modify rfl kept other)⟩
  | openingFailed =>
      exact silent rfl (presence?_modify rfl fun _ => rfl)
  | attached found begun tracked held =>
      exact silent rfl (presence?_insert tracked rfl rfl)
  | discarded found begun tracked held =>
      exact silent rfl (presence?_insert tracked rfl rfl)
  | @paused _ timeout store files isCheck limit isSilent takes =>
      refine ⟨_, rfl, fun identity => ?_⟩
      have pauses : meeting.pauses move = true := by
        rw [pauses_iff, fallsSilent, limit]
        exact ⟨isCheck, isSilent⟩
      rw [kindsOf_paused keyed]
      split
      · next member =>
          obtain ⟨participant, found, listens⟩ :=
            (mem_listeners_identity keyed).1 member
          have same := keyed identity participant found
          refine .paused pauses
            ((mem_listeners_iff keyed participant).2 ⟨?_, listens⟩)
            (presence?_of_get? found) ?_
          · rw [same]
            exact found
          · rw [presence?, Table.get?_map, found, Option.map_some,
              Option.map_some, Participant.hush, if_pos listens]
            rfl
      · next silentAlready =>
          refine .same ?_
          rw [presence?, presence?, Table.get?_map]
          cases found : meeting.participants.get? identity with
          | none => rfl
          | some participant =>
              have absent : ¬ participant.session.isSome = true :=
                fun listens => silentAlready
                  ((mem_listeners_identity keyed).2
                    ⟨participant, found, listens⟩)
              rw [Option.map_some, Option.map_some, Option.map_some,
                Participant.hush, if_neg absent]
  | collected =>
      refine silent rfl fun identity => ?_
      rw [presence?, presence?, Table.get?_map, Option.map_map]
      rfl
  | finished =>
      rw [finish_eq] at silent ⊢
      exact silent rfl fun _ => rfl
  | _ => exact silent rfl fun _ => rfl

/-! ## Following the records -/

/-- `Follows isLoose meeting` means that what is on record about each participant
can be followed and leads to the presence that the participant has. -/
def Follows (isLoose : Bool) (meeting : Meeting) : Prop :=
  ∀ identity, Course.follow isLoose none (kindsOf identity meeting.records) =
    some (meeting.presence? identity)

/-- A turn can be followed loosely, and if the move is orderly also in
order. -/
theorem Turn.follow {isLoose : Bool} {identity : String}
    {word : List LifecycleKind} (turn : Turn meeting move after identity word)
    (fits : isLoose = true ∨ meeting.isOrderly move = true) :
    Course.follow isLoose (meeting.presence? identity) word =
      some (after.presence? identity) := by
  cases turn with
  | same kept => rw [kept, Course.follow_nil]
  | joined absent present => rw [absent, present]; rfl
  | @left presence present absent =>
      rw [present, absent]
      cases presence <;> rfl
  | @paused participant pauses member before idle =>
      have steps : isLoose = true ∨ participant.presence = .active := by
        refine fits.imp_right fun orderly => ?_
        rw [isOrderly, Bool.and_eq_true, pauses] at orderly
        exact eq_of_beq (List.all_eq_true.1 orderly.2 participant member)
      rw [before, idle]
      cases presence : participant.presence with
      | active => rfl
      | idle =>
          rw [presence] at steps
          obtain rfl := steps.resolve_right nofun
          rfl
  | @woken participant wakes member lacks before active =>
      have steps : isLoose = true ∨ participant.presence = .idle := by
        refine fits.imp_right fun orderly => ?_
        rw [isOrderly, Bool.and_eq_true, wakes] at orderly
        have sleeps := List.all_eq_true.1 orderly.1 participant member
        rw [lacks] at sleeps
        exact eq_of_beq sleeps
      rw [before, active]
      cases presence : participant.presence with
      | idle => rfl
      | active =>
          rw [presence] at steps
          obtain rfl := steps.resolve_right nofun
          rfl

theorem Follows.step {isLoose : Bool} (keyed : meeting.IsKeyed)
    (follows : meeting.Follows isLoose)
    (outcome : Outcome meeting move after)
    (fits : isLoose = true ∨ meeting.isOrderly move = true) :
    after.Follows isLoose := by
  obtain ⟨records, equality, turns⟩ := outcome.turns keyed
  intro identity
  rw [equality, kindsOf_append, Course.follow_append, follows identity]
  exact (turns identity).follow fits

theorem start_follows {options : MeetingOptions} {storeOptions : StoreOptions}
    {files : FileTree} {began : Moment} {begun : Meeting}
    (started :
      (Meeting.new options storeOptions files began).start =
        (begun, .ok ())) (isLoose : Bool) :
    begun.IsKeyed ∧ begun.Follows isLoose := by
  obtain ⟨-, rfl⟩ := start_ok started
  exact ⟨isKeyed_new options storeOptions files began, fun _ => rfl⟩

/-- Every run can be followed loosely. -/
theorem performAll_follows_loosely {begun : Meeting} (keyed : begun.IsKeyed)
    (follows : begun.Follows true) {moves : List Move}
    (taken : begun.takesAll moves = true) :
    (begun.performAll moves).Follows true :=
  performAll_induction (motive := fun _ meeting => meeting.Follows true) keyed
    follows taken fun _ _ _ _ _ keyed held outcome =>
      held.step keyed outcome (.inl rfl)

/-! ## Disorder -/

theorem records_performAll (keyed : meeting.IsKeyed) {moves : List Move}
    (taken : meeting.takesAll moves = true) :
    ∃ more, (meeting.performAll moves).records = meeting.records ++ more := by
  refine performAll_induction
    (motive := fun _ later => ∃ more, later.records = meeting.records ++ more)
    keyed ⟨[], (List.append_nil _).symm⟩ taken ?_
  rintro done move later after - keyed ⟨more, equality⟩ outcome
  obtain ⟨others, equalityToo, -⟩ := outcome.turns keyed
  exact ⟨more ++ others, by
    rw [equalityToo, equality, List.append_assoc]⟩

/-- A check that pauses the group puts a pause of all listeners on record. -/
theorem records_of_pauses (keyed : meeting.IsKeyed)
    (pauses : meeting.pauses move = true) (taken : meeting.takes move = true) :
    (meeting.perform move).records = meeting.records ++
      meeting.listeners.map (pausedRecord meeting.clock) := by
  obtain ⟨isCheck, falls⟩ := pauses_iff.1 pauses
  rw [fallsSilent] at falls
  obtain ⟨timeout, limit, silent⟩ := (Option.any_eq_true _ _).1 falls
  have checked := checkIdle_of_isSilent limit silent
  have succeeded : (meeting.pause timeout).2.isOk = true := by
    rcases isCheck with rfl | rfl
    all_goals
      rw [takes, checked] at taken
      generalize (meeting.pause timeout).2 = result at taken ⊢
      cases result <;> exact taken
  generalize paused : meeting.pause timeout = reached at checked succeeded
  obtain ⟨recorded, error | farewells⟩ := reached
  · cases succeeded
  · obtain ⟨-, store, files, -, rfl⟩ := pause_ok keyed paused
    rcases isCheck with rfl | rfl
    · rw [perform, checked]
    · rw [perform, checked]
      rfl

/-- An audio track that wakes up the group puts the waking of all who lack a
session on record. -/
theorem records_of_wakes (keyed : meeting.IsKeyed)
    (wakes : meeting.wakes move = true) (taken : meeting.takes move = true) :
    (meeting.perform move).records =
      meeting.records ++ (meeting.lacking meeting.participants.keys).map
        (resumedRecord meeting.clock) := by
  obtain ⟨isPaused, other, participant, hears, found, lacks⟩ :=
    wakes_iff.1 wakes
  have outcome := perform_outcome keyed taken
  generalize meeting.perform move = after at outcome ⊢
  cases outcome with
  | nothing applies => exact absurd applies hears.alwaysApplies
  | dropped isClosed => exact absurd isClosed hears.not_isClosed
  | joinedAgain joins | joined joins => cases joins.unique hears
  | leftUnknown leaves | left leaves => cases leaves.unique hears
  | trackUnknown subscribes absent =>
      cases subscribes.unique hears
      rw [absent] at found
      cases found
  | trackServed subscribes present served =>
      cases subscribes.unique hears
      obtain rfl := Option.some.inj (present.symm.trans found)
      rw [lacks] at served
      cases served
  | retried _ _ _ notPaused =>
      rw [notPaused] at isPaused
      cases isPaused
  | blank speaks | spoken speaks => cases speaks.unique hears
  | paused isCheck => exact absurd isCheck hears.not_isCheck
  | woken => rw [requestOpenings_eq]
  | _ => simp [Hears] at hears

/-- Where the records can still be followed after one of them was added about a
participant, it fits the presence that the participant had. -/
theorem Follows.advance_ne_none {isLoose : Bool}
    (follows : meeting.Follows isLoose) {records : List CoreRecord}
    (added : after.records = meeting.records ++ records) {identity : String}
    {kind : LifecycleKind} (word : kindsOf identity records = [kind])
    (followed : Course.follow isLoose none
      (kindsOf identity after.records) ≠ none) :
    Course.advance isLoose (meeting.presence? identity) kind ≠ none := by
  intro stuck
  refine followed ?_
  rw [added, kindsOf_append, Course.follow_append, follows identity, word,
    Option.bind_some, Course.follow_cons, stuck]
  rfl

/-- Somebody who is woken up without having been paused cannot be followed. -/
theorem isIdle_of_wakes (keyed : meeting.IsKeyed)
    (follows : meeting.Follows false) (wakes : meeting.wakes move = true)
    (taken : meeting.takes move = true)
    (followed : ∀ identity, Course.follow false none
      (kindsOf identity (meeting.perform move).records) ≠ none)
    {participant : Participant}
    (member : participant ∈ meeting.participants.values)
    (lacks : participant.lacksSession = true) :
    participant.presence = .idle := by
  have present := (mem_values_iff keyed participant).1 member
  have word := kindsOf_woken meeting participant.identity meeting.clock
  rw [if_pos (mem_lacking_keys.2 ⟨participant, present, lacks⟩)] at word
  have fits := follows.advance_ne_none (records_of_wakes keyed wakes taken)
    word (followed participant.identity)
  rw [presence?_of_get? present] at fits
  cases presence : participant.presence with
  | idle => rfl
  | active =>
      rw [presence] at fits
      exact absurd rfl fits

/-- Somebody who is paused again without having been woken up cannot be
followed. -/
theorem isActive_of_pauses (keyed : meeting.IsKeyed)
    (follows : meeting.Follows false) (pauses : meeting.pauses move = true)
    (taken : meeting.takes move = true)
    (followed : ∀ identity, Course.follow false none
      (kindsOf identity (meeting.perform move).records) ≠ none)
    {participant : Participant} (member : participant ∈ meeting.listeners) :
    participant.presence = .active := by
  obtain ⟨present, -⟩ := (mem_listeners_iff keyed participant).1 member
  have word := kindsOf_paused keyed participant.identity meeting.clock
  rw [if_pos (List.mem_map_of_mem member)] at word
  have fits := follows.advance_ne_none
    (records_of_pauses keyed pauses taken) word
    (followed participant.identity)
  rw [presence?_of_get? present] at fits
  cases presence : participant.presence with
  | active => rfl
  | idle =>
      rw [presence] at fits
      exact absurd rfl fits

/-- A move whose records can be followed in order is orderly. -/
theorem isOrderly_of_followed (keyed : meeting.IsKeyed)
    (follows : meeting.Follows false) (taken : meeting.takes move = true)
    (followed : ∀ identity, Course.follow false none
      (kindsOf identity (meeting.perform move).records) ≠ none) :
    meeting.isOrderly move = true := by
  rw [isOrderly, Bool.and_eq_true]
  constructor
  · cases wakes : meeting.wakes move with
    | false => rfl
    | true =>
        refine List.all_eq_true.2 fun participant member => ?_
        cases lacks : participant.lacksSession with
        | false => rfl
        | true =>
            rw [isIdle_of_wakes keyed follows wakes taken followed member
              lacks]
            rfl
  · cases pauses : meeting.pauses move with
    | false => rfl
    | true =>
        refine List.all_eq_true.2 fun participant member => ?_
        rw [isActive_of_pauses keyed follows pauses taken followed member]
        rfl

/-- A run can be followed in order exactly if it stays orderly. -/
theorem performAll_followed_iff {moves : List Move} (keyed : meeting.IsKeyed)
    (follows : meeting.Follows false)
    (taken : meeting.takesAll moves = true) :
    (∀ identity, ∃ state, Course.follow false none
        (kindsOf identity (meeting.performAll moves).records) = some state) ↔
      meeting.staysOrderly moves = true := by
  induction moves generalizing meeting with
  | nil => exact iff_of_true (fun identity => ⟨_, follows identity⟩) rfl
  | cons move others inductionHypothesis =>
      rw [takesAll, Bool.and_eq_true] at taken
      obtain ⟨takenNow, takenLater⟩ := taken
      have outcome := perform_outcome keyed takenNow
      have later := outcome.isKeyed keyed
      rw [staysOrderly, Bool.and_eq_true]
      constructor
      · intro followed
        obtain ⟨more, equality⟩ := records_performAll later takenLater
        have orderly : meeting.isOrderly move = true := by
          refine isOrderly_of_followed keyed follows takenNow ?_
          -- Records are only added, so a word that is stuck stays stuck.
          intro identity stuck
          obtain ⟨state, ends⟩ := followed identity
          have stillStuck := Course.follow_eq_none_of_append stuck
            (kindsOf identity more)
          rw [← kindsOf_append, ← equality] at stillStuck
          exact absurd (ends.symm.trans stillStuck)
            (Option.some_ne_none state)
        exact ⟨orderly, (inductionHypothesis later
          (follows.step keyed outcome (.inr orderly)) takenLater).1 followed⟩
      · rintro ⟨orderly, staysOrderly⟩
        exact (inductionHypothesis later
          (follows.step keyed outcome (.inr orderly)) takenLater).2
            staysOrderly

end Meeting

end MeetingLog
