import MeetingLog.Proofs.Meeting.Log
import MeetingLog.Proofs.Trace.Told

/-!
# Attendance

Who is present, and what goes onto record about them, depends on nothing but the
events of the room and the times at which they are handled. It is found by going
through these events alone, without sessions, pauses or a store.
-/

namespace MeetingLog

open MeetingLog.Calendar
open MeetingLog.Files
open MeetingLog.Trace

/-- Who is present, and what is on record about the events of the room. -/
structure Attendance where
  present : List String
  records : List CoreRecord

namespace Attendance

/-- Nobody is present and nothing is on record. -/
def empty : Attendance :=
  ⟨[], []⟩

def step (attendance : Attendance) (time : ClockTime) :
    RoomEvent → Attendance
  | .joined identity _ =>
      if identity ∈ attendance.present then attendance
      else
        ⟨identity :: attendance.present,
          attendance.records ++ [.lifecycle ⟨time, identity, .joined⟩]⟩
  | .left identity =>
      if identity ∈ attendance.present then
        ⟨attendance.present.filter fun other => other ≠ identity,
          attendance.records ++ [.lifecycle ⟨time, identity, .left⟩]⟩
      else attendance
  | .trackSubscribed _ => attendance
  | .utterance identity text =>
      if Text.allBlank text then attendance
      else
        { attendance with
          records :=
            attendance.records ++
              [.transcript
                ⟨time, identity, Text.trim text,
                  UInt64.ofNat (Text.wordCount (Text.trim text))⟩] }

/-- The attendance after several events, each handled at a time of its own. -/
def ofEvents (events : List (ClockTime × RoomEvent)) : Attendance :=
  events.foldl
    (fun attendance entry => attendance.step entry.1 entry.2) empty

theorem ofEvents_append (events : List (ClockTime × RoomEvent))
    (time : ClockTime) (event : RoomEvent) :
    ofEvents (events ++ [(time, event)]) =
      (ofEvents events).step time event := by
  rw [ofEvents, List.foldl_append]
  rfl

end Attendance

namespace Move

/-- The milliseconds that go by while moves are made. -/
def duration : List Move → Nat
  | [] => 0
  | .tick milliseconds :: moves => milliseconds + duration moves
  | _ :: moves => duration moves

/-- The events that a meeting takes note of, each with the second in which it
does: those it handles before it stops listening, and those it is told of. The
first argument is when the meeting began, the second how many milliseconds ago,
and the third whether it listens. -/
def events (began : Moment) :
    Nat → Bool → List Move → List (ClockTime × RoomEvent)
  | _, _, [] => []
  | elapsed, listens, .handle event :: moves =>
      (if listens then [((began.later elapsed).time.wholeSecond, event)]
        else []) ++ events began elapsed listens moves
  | elapsed, listens, .tell event :: moves =>
      ((began.later elapsed).time.wholeSecond, event) ::
        events began elapsed listens moves
  | elapsed, listens, .tick milliseconds :: moves =>
      events began (elapsed + milliseconds) listens moves
  | elapsed, _, .stopListening :: moves => events began elapsed false moves
  | elapsed, listens, _ :: moves => events began elapsed listens moves

/-- The events of a meeting, from its beginning on. -/
def schedule (began : Moment) (moves : List Move) :
    List (ClockTime × RoomEvent) :=
  events began 0 true moves

theorem duration_append (front back : List Move) :
    duration (front ++ back) = duration front + duration back := by
  induction front with
  | nil => simp [duration]
  | cons move front inductionHypothesis =>
      cases move <;> simp [duration, inductionHypothesis, Nat.add_assoc]

theorem events_append (began : Moment) (front back : List Move) :
    ∀ elapsed listens, events began elapsed listens (front ++ back) =
      events began elapsed listens front ++
        events began (elapsed + duration front)
          (listens && .stopListening ∉ front) back := by
  induction front with
  | nil =>
      intro elapsed listens
      simp [events, duration]
  | cons move front inductionHypothesis =>
      intro elapsed listens
      cases move <;>
        simp [events, duration, inductionHypothesis, Nat.add_assoc]

theorem schedule_append (began : Moment) (done : List Move) (move : Move) :
    schedule began (done ++ [move]) =
      schedule began done ++
        events began (duration done) (decide (.stopListening ∉ done))
          [move] := by
  rw [schedule, events_append, Nat.zero_add, Bool.true_and]
  rfl

end Move

namespace Meeting

variable {meeting after : Meeting} {attendance : Attendance}

/-- `Agrees meeting attendance` means that the meeting tracks those who are
present, and that its records about the events of the room are those of the
attendance. -/
structure Agrees (meeting : Meeting) (attendance : Attendance) : Prop where
  records : meeting.records.filter CoreRecord.isAttendance =
    attendance.records
  present : ∀ identity, meeting.participants.contains identity = true ↔
    identity ∈ attendance.present

/-- Neither the records about the events of the room nor the tracked identities
have changed. -/
theorem Agrees.keep (agrees : meeting.Agrees attendance)
    {more : List CoreRecord}
    (records : after.records = meeting.records ++ more)
    (others : ∀ record ∈ more, record.isAttendance = false)
    (tracked : ∀ identity, after.participants.contains identity =
      meeting.participants.contains identity) :
    after.Agrees attendance where
  records := by
    have none : more.filter CoreRecord.isAttendance = [] := by
      rw [List.filter_eq_nil_iff]
      intro record member
      rw [others record member]
      exact Bool.false_ne_true
    rw [records, List.filter_append, none, List.append_nil]
    exact agrees.records
  present identity := by
    rw [tracked]
    exact agrees.present identity

/-- One record about the events of the room has come. -/
theorem Agrees.extend (agrees : meeting.Agrees attendance)
    {record : CoreRecord} {present : List String}
    (records : after.records = meeting.records ++ [record])
    (isAttendance : record.isAttendance = true)
    (tracked : ∀ identity, after.participants.contains identity = true ↔
      identity ∈ present) :
    after.Agrees ⟨present, attendance.records ++ [record]⟩ where
  records := by
    rw [records, List.filter_append, agrees.records,
      List.filter_cons_of_pos isAttendance]
    rfl
  present := tracked

theorem contains_insert_tracked {participants : Table String Participant}
    {identity : String} {participant : Participant}
    (found : participants.get? identity = some participant)
    (changed : Participant) (other : String) :
    (participants.insert identity changed).contains other =
      participants.contains other := by
  rw [Table.contains_insert]
  by_cases same : other = identity
  · subst same
    simp [Table.contains, found]
  · simp [same]

theorem contains_eq_true {participants : Table String Participant}
    {identity : String} {participant : Participant}
    (found : participants.get? identity = some participant) :
    participants.contains identity = true := by
  rw [Table.contains, found]
  rfl

theorem contains_eq_false {participants : Table String Participant}
    {identity : String} (absent : participants.get? identity = none) :
    participants.contains identity = false := by
  rw [Table.contains, absent]
  rfl

theorem isAttendance_resumed {time : ClockTime} {identities : List String}
    {record : CoreRecord}
    (member : record ∈ identities.map (resumedRecord time)) :
    record.isAttendance = false := by
  obtain ⟨identity, _, rfl⟩ := List.mem_map.1 member
  rfl

theorem isAttendance_paused {time : ClockTime}
    {participants : List Participant} {record : CoreRecord}
    (member : record ∈ participants.map (pausedRecord time)) :
    record.isAttendance = false := by
  obtain ⟨participant, _, rfl⟩ := List.mem_map.1 member
  rfl

theorem Agrees.same (agrees : meeting.Agrees attendance)
    (records : after.records = meeting.records)
    (tracked : ∀ identity, after.participants.contains identity =
      meeting.participants.contains identity) :
    after.Agrees attendance :=
  agrees.keep (records.trans (List.append_nil _).symm)
    (fun _ member => absurd member List.not_mem_nil) tracked

/-- Whatever is not an event of the room makes no difference. -/
theorem Outcome.agrees_same {move : Move}
    (agrees : meeting.Agrees attendance)
    (outcome : Outcome meeting move after)
    (noEvent : ∀ event, ¬ meeting.Hears move event) :
    after.Agrees attendance := by
  cases outcome with
  | joinedAgain hears | joined hears | leftUnknown hears | left hears
  | trackUnknown hears | trackServed hears | woken hears | retried hears
  | blank hears | spoken hears =>
      exact absurd hears (noEvent _)
  | openingFailed =>
      exact agrees.same rfl fun identity => Table.contains_modify _ _ _ _
  | attached found begun tracked none =>
      exact agrees.same rfl fun identity =>
        contains_insert_tracked tracked _ _
  | discarded found begun tracked held =>
      exact agrees.same rfl fun identity =>
        contains_insert_tracked tracked _ _
  | paused =>
      exact agrees.keep rfl (fun _ => isAttendance_paused) fun identity =>
        Table.contains_map _ _ _
  | collected =>
      exact agrees.same rfl fun identity => Table.contains_map _ _ _
  | finished =>
      rw [finish_eq]
      exact agrees.same rfl fun _ => rfl
  | _ => exact agrees.same rfl fun _ => rfl

theorem ofUtterance?_eq (time : ClockTime) (identity text : String) :
    Transcript.ofUtterance? time identity text =
      if Text.allBlank text then none
      else
        some ⟨time, identity, Text.trim text,
          UInt64.ofNat (Text.wordCount (Text.trim text))⟩ := by
  unfold Transcript.ofUtterance?
  simp only [Text.trim_eq_empty_iff]

/-- An event that is taken note of makes the difference that it makes to the
attendance. -/
theorem Outcome.agrees_step {move : Move} {event : RoomEvent}
    (agrees : meeting.Agrees attendance)
    (outcome : Outcome meeting move after)
    (hears : meeting.Hears move event) :
    after.Agrees (attendance.step meeting.clock event) := by
  cases outcome with
  | nothing always => exact absurd always hears.alwaysApplies
  | dropped isClosed => exact absurd isClosed hears.not_isClosed
  | @joinedAgain _ identity _ _ joins tracked =>
      obtain rfl := joins.unique hears
      have isPresent := (agrees.present identity).1 tracked
      rw [Attendance.step, if_pos isPresent]
      exact agrees.same rfl fun _ => rfl
  | @joined _ identity _ _ _ joins absent takes =>
      obtain rfl := joins.unique hears
      have isAbsent : identity ∉ attendance.present := by
        rw [← agrees.present, contains_eq_false absent]
        exact Bool.false_ne_true
      rw [Attendance.step, if_neg isAbsent]
      refine agrees.extend rfl rfl fun other => ?_
      rw [Table.contains_insert, Bool.or_eq_true, agrees.present,
        decide_eq_true_eq, List.mem_cons]
  | @leftUnknown _ identity _ leaves absent =>
      obtain rfl := leaves.unique hears
      have isAbsent : identity ∉ attendance.present := by
        rw [← agrees.present, contains_eq_false absent]
        exact Bool.false_ne_true
      rw [Attendance.step, if_neg isAbsent]
      exact agrees.same rfl fun _ => rfl
  | @left _ identity _ _ _ leaves found takes =>
      obtain rfl := leaves.unique hears
      have isPresent : identity ∈ attendance.present := by
        rw [← agrees.present, contains_eq_true found]
      rw [Attendance.step, if_pos isPresent]
      refine agrees.extend rfl rfl fun other => ?_
      rw [Table.contains_erase, Bool.and_eq_true, agrees.present,
        List.mem_filter, and_comm]
      simp
  | trackUnknown subscribes =>
      obtain rfl := subscribes.unique hears
      exact agrees.same rfl fun _ => rfl
  | trackServed subscribes =>
      obtain rfl := subscribes.unique hears
      exact agrees.same rfl fun _ => rfl
  | woken subscribes =>
      obtain rfl := subscribes.unique hears
      rw [requestOpenings_eq]
      exact agrees.keep rfl (fun _ => isAttendance_resumed) fun identity =>
        Table.contains_map _ _ _
  | retried subscribes found =>
      obtain rfl := subscribes.unique hears
      exact agrees.same rfl fun identity =>
        contains_insert_tracked found _ _
  | blank speaks said =>
      obtain rfl := speaks.unique hears
      rw [ofUtterance?_eq] at said
      split at said
      · next isBlank =>
          rw [Attendance.step, if_pos isBlank]
          exact agrees.same rfl fun _ => rfl
      · cases said
  | spoken speaks said takes =>
      obtain rfl := speaks.unique hears
      rw [ofUtterance?_eq] at said
      split at said
      · cases said
      · next notBlank =>
          obtain rfl := Option.some.inj said
          rw [Attendance.step, if_neg notBlank]
          refine agrees.extend rfl rfl fun other => ?_
          rw [Table.contains_modify]
          exact agrees.present other
  | paused isCheck => exact absurd isCheck hears.not_isCheck
  | _ => simp [Hears] at hears

/-! ## Time -/

/-- `IsAtTime began done meeting` means that the meeting began at a moment, that
time has gone by as the moves done say, and that the meeting listens unless one
of them has put an end to that. -/
structure IsAtTime (began : Moment) (done : List Move) (meeting : Meeting) :
    Prop where
  began_eq : meeting.began = began
  elapsed_eq : meeting.elapsed = Move.duration done
  isClosed_iff : meeting.isClosed = true ↔ .stopListening ∈ done

theorem IsAtTime.clock_eq {began : Moment} {done : List Move}
    (atTime : IsAtTime began done meeting) :
    meeting.clock = (began.later (Move.duration done)).time.wholeSecond := by
  rw [clock, now, atTime.began_eq, atTime.elapsed_eq]

theorem IsAtTime.listens_eq {began : Moment} {done : List Move}
    (atTime : IsAtTime began done meeting) :
    decide (Move.stopListening ∉ done) = !meeting.isClosed := by
  have same : decide (Move.stopListening ∈ done) = meeting.isClosed := by
    rw [Bool.eq_iff_iff, decide_eq_true_iff, atTime.isClosed_iff]
  rw [decide_not, same]

/-- What is taken note of with one move. -/
theorem Hears.events_eq {move : Move} {event : RoomEvent}
    (hears : meeting.Hears move event) (began : Moment) (elapsed : Nat) :
    Move.events began elapsed (!meeting.isClosed) [move] =
      [((began.later elapsed).time.wholeSecond, event)] := by
  rcases hears with rfl | ⟨rfl, isOpen⟩
  · rfl
  · rw [isOpen]
    rfl

theorem events_eq_nil {move : Move}
    (noEvent : ∀ event, ¬ meeting.Hears move event) (began : Moment)
    (elapsed : Nat) :
    Move.events began elapsed (!meeting.isClosed) [move] = [] := by
  cases move with
  | handle event =>
      have isClosed : meeting.isClosed = true := by
        by_contra isOpen
        exact noEvent event (.inr ⟨rfl, by simpa using isOpen⟩)
      rw [isClosed]
      rfl
  | tell event => exact absurd (.inl rfl) (noEvent event)
  | _ => rfl

theorem Hears.duration_eq {move : Move} {event : RoomEvent}
    (hears : meeting.Hears move event) : Move.duration [move] = 0 := by
  rcases hears with rfl | ⟨rfl, -⟩
  · rfl
  · rfl

theorem Hears.ne_stopListening {move : Move} {event : RoomEvent}
    (hears : meeting.Hears move event) : move ≠ .stopListening := by
  rcases hears with rfl | ⟨rfl, -⟩
  · simp
  · simp

theorem Outcome.isAtTime {began : Moment} {done : List Move} {move : Move}
    (atTime : IsAtTime began done meeting)
    (outcome : Outcome meeting move after) :
    IsAtTime began (done ++ [move]) after := by
  obtain ⟨began_eq, elapsed_eq, isClosed_iff⟩ := atTime
  have timeless (began_same : after.began = meeting.began)
      (elapsed_same : after.elapsed = meeting.elapsed)
      (isClosed_same : after.isClosed = meeting.isClosed)
      (noTime : Move.duration [move] = 0) (noEnd : move ≠ .stopListening) :
      IsAtTime began (done ++ [move]) after := by
    refine ⟨began_same.trans began_eq, ?_, ?_⟩
    · rw [elapsed_same, elapsed_eq, Move.duration_append, noTime]
      rfl
    · rw [isClosed_same, isClosed_iff, List.mem_append, List.mem_singleton]
      simp [Ne.symm noEnd]
  cases outcome with
  | nothing always =>
      have noTime : Move.duration [move] = 0 := by
        cases move <;> first | rfl | cases always
      have noEnd : move ≠ .stopListening := by
        rintro rfl
        cases always
      exact timeless rfl rfl rfl noTime noEnd
  | joinedAgain hears | joined hears | leftUnknown hears | left hears
  | trackUnknown hears | trackServed hears | retried hears | blank hears
  | spoken hears =>
      exact timeless rfl rfl rfl hears.duration_eq hears.ne_stopListening
  | ticked milliseconds =>
      refine ⟨began_eq, ?_, ?_⟩
      · rw [Move.duration_append, ← elapsed_eq]
        rfl
      · rw [List.mem_append, ← isClosed_iff]
        simp [Meeting.tick]
  | stopped =>
      refine ⟨began_eq, ?_, ?_⟩
      · rw [Move.duration_append, ← elapsed_eq]
        rfl
      · simp [stopListening]
  | paused isCheck =>
      rcases isCheck with rfl | rfl <;>
        exact timeless rfl rfl rfl rfl (by simp)
  | woken hears =>
      rw [requestOpenings_eq] at timeless ⊢
      exact timeless rfl rfl rfl hears.duration_eq hears.ne_stopListening
  | finished =>
      rw [finish_eq] at timeless ⊢
      exact timeless rfl rfl rfl rfl (by simp)
  | _ => exact timeless rfl rfl rfl rfl (by simp)

/-! ## Runs -/

/-- What has become of a meeting depends on the events of the room in the
following way. -/
theorem performAll_agrees {began : Moment} {begun : Meeting}
    (keyed : begun.IsKeyed) (agrees : begun.Agrees .empty)
    (atTime : IsAtTime began [] begun) {moves : List Move}
    (taken : begun.takesAll moves = true) :
    (begun.performAll moves).Agrees
        (Attendance.ofEvents (Move.schedule began moves)) ∧
      IsAtTime began moves (begun.performAll moves) := by
  refine performAll_induction
    (motive := fun done meeting =>
      meeting.Agrees (Attendance.ofEvents (Move.schedule began done)) ∧
        IsAtTime began done meeting)
    keyed ⟨agrees, atTime⟩ taken ?_
  intro done move meeting after _ _ held outcome
  obtain ⟨stillAgrees, stillAtTime⟩ := held
  refine ⟨?_, outcome.isAtTime stillAtTime⟩
  rw [Move.schedule_append, stillAtTime.listens_eq]
  by_cases heard : ∃ event, meeting.Hears move event
  · obtain ⟨event, hears⟩ := heard
    rw [hears.events_eq, Attendance.ofEvents_append, ← stillAtTime.clock_eq]
    exact outcome.agrees_step stillAgrees hears
  · have noEvent : ∀ event, ¬ meeting.Hears move event :=
      fun event hears => heard ⟨event, hears⟩
    rw [events_eq_nil noEvent, List.append_nil]
    exact outcome.agrees_same stillAgrees noEvent

theorem start_agrees {options : MeetingOptions}
    {storeOptions : StoreOptions} {files : FileTree} {began : Moment}
    {begun : Meeting}
    (started :
      (Meeting.new options storeOptions files began).start =
        (begun, .ok ())) :
    begun.IsKeyed ∧ begun.Agrees .empty ∧ IsAtTime began [] begun := by
  obtain ⟨_, rfl⟩ := start_ok started
  refine ⟨isKeyed_new options storeOptions files began, ?_, ?_⟩
  · refine ⟨rfl, fun identity => ?_⟩
    simp [Meeting.new, Attendance.empty]
  · exact ⟨rfl, rfl, by simp [Meeting.new]⟩

/-! ## Statistics -/

theorem add_of_not_isAttendance (statistics : Statistics)
    {record : CoreRecord} (other : record.isAttendance = false) :
    statistics.add record = statistics := by
  cases record with
  | transcript entry => cases other
  | lifecycle entry =>
      obtain ⟨time, participant, kind⟩ := entry
      cases kind <;> first | rfl | cases other

/-- Pauses and their ends are not counted. -/
theorem addAll_filter (records : List CoreRecord) :
    ∀ statistics : Statistics,
      statistics.addAll records =
        statistics.addAll (records.filter CoreRecord.isAttendance) := by
  induction records with
  | nil => intro statistics; rfl
  | cons record others inductionHypothesis =>
      intro statistics
      cases isAttendance : record.isAttendance with
      | false =>
          rw [List.filter_cons_of_neg (by simp [isAttendance])]
          rw [← inductionHypothesis, Statistics.addAll, List.foldl_cons,
            add_of_not_isAttendance statistics isAttendance]
          rfl
      | true =>
          rw [List.filter_cons_of_pos isAttendance]
          exact inductionHypothesis (statistics.add record)

theorem IsLogged.statistics_eq {storeOptions : StoreOptions}
    (logged : meeting.IsLogged storeOptions) :
    meeting.store.statistics =
      { storeOptions.statisticsOf
          (meeting.records.filter CoreRecord.isAttendance) with
        endedAt := meeting.store.statistics.endedAt } := by
  have same :
      storeOptions.statisticsOf meeting.records =
        storeOptions.statisticsOf
          (meeting.records.filter CoreRecord.isAttendance) :=
    addAll_filter meeting.records _
  rw [← same]
  rcases logged with recording | ⟨ended, finalized⟩
  · rw [recording.counted]
  · rw [finalized.counted]
    rfl

/-- The records of two runs with the same events are the same but for pauses,
and so are the statistics but for the time of the end. -/
theorem statistics_agree {other : Meeting} {storeOptions : StoreOptions}
    (logged : meeting.IsLogged storeOptions)
    (loggedToo : other.IsLogged storeOptions)
    (same :
      other.records.filter CoreRecord.isAttendance =
        meeting.records.filter CoreRecord.isAttendance) :
    other.store.statistics =
      { meeting.store.statistics with
        endedAt := other.store.statistics.endedAt } := by
  rw [loggedToo.statistics_eq, same, logged.statistics_eq]

/-- The log of a meeting follows the events of the room, whatever becomes of the
sessions. In every run in which the store takes every record, the store holds
the records of the run; those about the events of the room are, in order, those
found by going through the events that were handled before the meeting stopped
listening or that it was told of, and the same goes for who is tracked.
Afterwards an event that is handled leaves nothing but a line in the trace. Two
runs with the same events thus agree on these records and on the statistics;
only the time of the end, which the statistics get when the meeting finishes,
may be another one. -/
theorem log_follows_events {options : MeetingOptions}
    {storeOptions : StoreOptions} {files : FileTree} {began : Moment}
    {begun : Meeting}
    (started :
      (Meeting.new options storeOptions files began).start =
        (begun, .ok ()))
    {moves : List Move} (taken : begun.takesAll moves = true) :
    let reached := begun.performAll moves
    let attendance := Attendance.ofEvents (Move.schedule began moves)
    Store.Holds storeOptions reached.store reached.files reached.records ∧
    reached.records.filter CoreRecord.isAttendance = attendance.records ∧
    (∀ identity, reached.participants.contains identity = true ↔
      identity ∈ attendance.present) ∧
    (.stopListening ∈ moves → ∀ event, ∃ text,
      reached.perform (.handle event) = reached.note (Note.debug text)) ∧
    ∀ (otherOptions : MeetingOptions) (otherFiles : FileTree)
      (otherBegan : Moment) (otherBegun : Meeting)
      (otherMoves : List Move),
      (Meeting.new otherOptions storeOptions otherFiles otherBegan).start =
        (otherBegun, .ok ()) →
      otherBegun.takesAll otherMoves = true →
      Move.schedule otherBegan otherMoves = Move.schedule began moves →
      let other := otherBegun.performAll otherMoves
      other.records.filter CoreRecord.isAttendance =
        reached.records.filter CoreRecord.isAttendance ∧
      other.store.statistics =
        { reached.store.statistics with
          endedAt := other.store.statistics.endedAt } ∧
      ((∀ failures, .finish failures ∉ moves ++ otherMoves) →
        other.store.statistics = reached.store.statistics) := by
  obtain ⟨keyed, agrees, atTime⟩ := start_agrees started
  obtain ⟨reachedAgrees, reachedAtTime⟩ :=
    performAll_agrees keyed agrees atTime taken
  have logged := performAll_isLogged keyed (start_isLogged started) taken
  refine ⟨logged, reachedAgrees.records, reachedAgrees.present, ?_, ?_⟩
  · intro stopped event
    have isClosed := reachedAtTime.isClosed_iff.2 stopped
    exact ⟨_, congrArg Prod.fst (if_pos isClosed)⟩
  · intro otherOptions otherFiles otherBegan otherBegun otherMoves
      otherStarted otherTaken sameEvents
    obtain ⟨otherKeyed, otherAgrees, otherAtTime⟩ :=
      start_agrees otherStarted
    have otherReached :=
      (performAll_agrees otherKeyed otherAgrees otherAtTime otherTaken).1
    have otherLogged :=
      performAll_isLogged otherKeyed (start_isLogged otherStarted)
        otherTaken
    have sameRecords :
        (otherBegun.performAll otherMoves).records.filter
            CoreRecord.isAttendance =
          (begun.performAll moves).records.filter
            CoreRecord.isAttendance := by
      rw [otherReached.records, reachedAgrees.records, sameEvents]
    have sameCounts := statistics_agree logged otherLogged sameRecords
    refine ⟨sameRecords, sameCounts, fun goesOn => ?_⟩
    have recording :=
      performAll_isRecording keyed (start_isRecording started) taken
        fun failures member =>
          goesOn failures (List.mem_append_left _ member)
    have otherRecording :=
      performAll_isRecording otherKeyed (start_isRecording otherStarted)
        otherTaken fun failures member =>
          goesOn failures (List.mem_append_right _ member)
    have notEnded : (begun.performAll moves).store.statistics.endedAt =
        none := by
      rw [recording.counted, endedAt_statisticsOf]
    rw [sameCounts, otherRecording.counted, endedAt_statisticsOf, ← notEnded]

/-- Somebody joins and leaves, and the session that was opened takes a number of
milliseconds to close. -/
def leavingBehind (milliseconds : Nat) : List Move :=
  [.handle (.joined "ada" none), .beginOpening 0,
    .finishOpening 0 (.opened "first"), .handle (.utterance "ada" "Hello"),
    .handle (.left "ada"), .beginClosing ⟨"ada", ⟨0, "first"⟩⟩,
    .stopListening, .tick milliseconds,
    .finishClosing ⟨"ada", ⟨0, "first"⟩⟩ none, .endWaiting,
    .collectSessions, .finish 0]

theorem log_follows_events_of_leavingBehind :
    small.start.1.takesAll (leavingBehind 5000) = true ∧
    small.start.1.takesAll (leavingBehind 0) = true ∧
    ((small.start.1.performAll (leavingBehind 5000)).records.filter
      CoreRecord.isAttendance).length = 3 ∧
    (small.start.1.performAll (leavingBehind 5000)).records.filter
        CoreRecord.isAttendance =
      (small.start.1.performAll (leavingBehind 0)).records.filter
        CoreRecord.isAttendance := by
  have taken : small.start.1.takesAll (leavingBehind 5000) = true := by
    decide +kernel
  have takenToo : small.start.1.takesAll (leavingBehind 0) = true := by
    decide +kernel
  obtain ⟨_, found, _, _, agree⟩ := log_follows_events small_starts takenToo
  have same := agree _ _ _ _ (leavingBehind 5000) small_starts taken
    (by decide +kernel)
  refine ⟨taken, takenToo, ?_, same.1⟩
  rw [same.1, found]
  decide +kernel

/-- The statistics of two runs with the same events need not be equal: they name
the time of the end, and that comes later when a session is slow to close. -/
theorem statistics_name_the_end :
    Move.schedule (Date.epoch.atTime .midnight) (leavingBehind 5000) =
      Move.schedule (Date.epoch.atTime .midnight) (leavingBehind 0) ∧
    small.start.1.takesAll (leavingBehind 5000) = true ∧
    small.start.1.takesAll (leavingBehind 0) = true ∧
    (small.start.1.performAll (leavingBehind 5000)).store.statistics ≠
      (small.start.1.performAll (leavingBehind 0)).store.statistics := by
  refine ⟨by decide +kernel, by decide +kernel, by decide +kernel, ?_⟩
  intro same
  have sameEnd := congrArg Statistics.endedAt same
  revert sameEnd
  decide +kernel

end Meeting

end MeetingLog
