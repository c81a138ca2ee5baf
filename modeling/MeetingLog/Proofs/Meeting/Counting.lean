import MeetingLog.Proofs.Meeting.Attendance
import MeetingLog.Proofs.Statistics.Tally

/-!
# Two accounts of what is said

A meeting counts what its participants say while they stay, and its store counts
what anybody says. Neither is ever corrected by the other, yet both can be told
from the records: the meeting counts those since a participant joined last, the
store all of them.
-/

namespace MeetingLog

open MeetingLog.Calendar
open MeetingLog.Files
open MeetingLog.Trace

/-! ## Stays -/

/-- The records about somebody since they joined last. -/
def latestStay (identity : String) (records : List CoreRecord) :
    List CoreRecord :=
  (recordsOf identity records).rtakeWhile fun record =>
    record.joinedAt?.isNone

/-- When somebody joined last. -/
def lastJoined? (identity : String) (records : List CoreRecord) :
    Option ClockTime :=
  ((recordsOf identity records).filterMap CoreRecord.joinedAt?).getLast?

section

variable {identity : String} {records more : List CoreRecord}

/-- A stay goes on until somebody joins again. -/
theorem latestStay_append (records : List CoreRecord)
    (stays : ∀ record ∈ recordsOf identity more, record.joinedAt? = none) :
    latestStay identity (records ++ more) =
      latestStay identity records ++ recordsOf identity more := by
  have staysToo : ∀ record ∈ (recordsOf identity more).reverse,
      record.joinedAt?.isNone = true := by
    intro record member
    rw [stays record (List.mem_reverse.1 member)]
    rfl
  rw [latestStay, recordsOf_append, List.rtakeWhile, List.reverse_append,
    List.takeWhile_append_of_pos staysToo, List.reverse_append,
    List.reverse_reverse]
  rfl

theorem lastJoined?_append (records : List CoreRecord)
    (stays : ∀ record ∈ recordsOf identity more, record.joinedAt? = none) :
    lastJoined? identity (records ++ more) = lastJoined? identity records := by
  rw [lastJoined?, recordsOf_append, List.filterMap_append,
    List.filterMap_eq_nil_iff.2 stays, List.append_nil]
  rfl

/-- With a joining a new stay begins. -/
theorem latestStay_joined (records : List CoreRecord) (time : ClockTime)
    (identity : String) :
    latestStay identity (records ++ [.lifecycle ⟨time, identity, .joined⟩]) =
        [] ∧
      lastJoined? identity
        (records ++ [.lifecycle ⟨time, identity, .joined⟩]) = some time := by
  have own : recordsOf identity
      [CoreRecord.lifecycle ⟨time, identity, .joined⟩] =
        [.lifecycle ⟨time, identity, .joined⟩] :=
    (recordsOf_singleton _ _).trans (if_pos rfl)
  constructor
  · rw [latestStay, recordsOf_append, own]
    exact List.rtakeWhile_concat_neg _ _ _ Bool.false_ne_true
  · rw [lastJoined?, recordsOf_append, own, List.filterMap_append]
    exact List.getLast?_concat

end

namespace Participant

def tally (participant : Participant) : Tally :=
  ⟨participant.words, participant.turns, participant.characters⟩

/-- What is known about the stay of a participant: when it began, and how much
was said in it. -/
def account (participant : Participant) : ClockTime × Tally :=
  (participant.joinedAt, participant.tally)

/-- `IsTold records identity participant` means that the records tell when the
participant joined last, and how much was said from then on. -/
def IsTold (records : List CoreRecord) (identity : String)
    (participant : Participant) : Prop :=
  lastJoined? identity records = some participant.joinedAt ∧
    participant.tally = Tally.ofRecords (latestStay identity records)

variable {identity : String} {records more : List CoreRecord}
variable {participant changed : Participant}

/-- Records by which nobody joins and nobody speaks tell nothing new. -/
theorem IsTold.keep (told : participant.IsTold records identity)
    (idle : ∀ record ∈ recordsOf identity more, record.introduces = false)
    (same : changed.account = participant.account) :
    changed.IsTold (records ++ more) identity := by
  obtain ⟨joined, tally⟩ := told
  obtain ⟨joinedAt, tallyToo⟩ := Prod.mk.inj same
  have quiet : ∀ record ∈ recordsOf identity more,
      record.transcript? = none ∧ record.joinedAt? = none := by
    intro record member
    simpa [CoreRecord.introduces] using idle record member
  constructor
  · rw [lastJoined?_append records fun record member =>
      (quiet record member).2, joined, joinedAt]
  · rw [latestStay_append records fun record member =>
        (quiet record member).2,
      Tally.ofRecords_append_of_silent _ fun record member =>
        (quiet record member).1, tallyToo, tally]

theorem IsTold.speak (told : participant.IsTold records identity)
    {spoken : Transcript} (own : spoken.participant = identity)
    (counted : spoken.wordCount = .ofNat (Text.wordCount spoken.text))
    (elapsed : Nat) :
    (participant.speak spoken elapsed).IsTold
      (records ++ [.transcript spoken]) identity := by
  obtain ⟨joined, tally⟩ := told
  have alone : recordsOf identity [CoreRecord.transcript spoken] =
      [.transcript spoken] :=
    (recordsOf_singleton _ _).trans (if_pos own)
  have stays : ∀ record ∈ recordsOf identity [CoreRecord.transcript spoken],
      record.joinedAt? = none := by
    rw [alone]
    rintro record member
    rw [List.mem_singleton.1 member]
    rfl
  refine ⟨(lastJoined?_append records stays).trans joined, ?_⟩
  rw [latestStay_append records stays, alone, Tally.ofRecords_transcript,
    ← tally, Tally.speak, ← counted]
  rfl

theorem isTold_new (records : List CoreRecord) (identity name : String)
    (time : ClockTime) (elapsed : Nat) :
    (Participant.new identity name time elapsed).beginOpening.IsTold
      (records ++ [.lifecycle ⟨time, identity, .joined⟩]) identity := by
  obtain ⟨begins, joined⟩ := latestStay_joined records time identity
  refine ⟨joined, ?_⟩
  rw [begins]
  rfl

end Participant

namespace Meeting

variable {meeting after : Meeting}

/-! ## What moves change of the accounts -/

/-- `Recount meeting move after` says what a move that turns the meeting into
`after` means for the accounts of the participants. -/
inductive Recount (meeting : Meeting) : Move → Meeting → Prop where
  /-- Nobody joins, leaves or speaks. -/
  | quiet {move : Move} {after : Meeting} (more : List CoreRecord)
      (records : after.records = meeting.records ++ more)
      (idle : ∀ record ∈ more, record.isAttendance = false)
      (accounts : ∀ identity,
        (after.participants.get? identity).map Participant.account =
          (meeting.participants.get? identity).map Participant.account) :
      Recount meeting move after
  | joined {move : Move} {identity : String} {name : Option String}
      {after : Meeting} (hears : meeting.Hears move (.joined identity name))
      (records : after.records = meeting.records ++
        [.lifecycle ⟨meeting.clock, identity, .joined⟩])
      (participants : after.participants =
        meeting.participants.insert identity
          (Participant.new identity (name.getD identity) meeting.clock
            meeting.elapsed).beginOpening) :
      Recount meeting move after
  | left {move : Move} {identity : String} {after : Meeting}
      (hears : meeting.Hears move (.left identity))
      (records : after.records = meeting.records ++
        [.lifecycle ⟨meeting.clock, identity, .left⟩])
      (participants : after.participants =
        meeting.participants.erase identity) :
      Recount meeting move after
  | spoken {move : Move} {identity text : String} {after : Meeting}
      (transcript : Transcript)
      (hears : meeting.Hears move (.utterance identity text))
      (own : transcript.participant = identity)
      (trimmed : transcript.text = Text.trim text)
      (notBlank : transcript.text ≠ "")
      (counted : transcript.wordCount =
        .ofNat (Text.wordCount transcript.text))
      (records : after.records =
        meeting.records ++ [.transcript transcript])
      (participants : after.participants =
        meeting.participants.modify identity
          (Participant.speak transcript meeting.elapsed)) :
      Recount meeting move after

/-- Nothing goes onto record, and no account changes. -/
theorem Recount.same {move : Move} (records : after.records = meeting.records)
    (accounts : ∀ identity,
      (after.participants.get? identity).map Participant.account =
        (meeting.participants.get? identity).map Participant.account) :
    Recount meeting move after :=
  .quiet [] (records.trans (List.append_nil _).symm)
    (fun _ member => absurd member List.not_mem_nil) accounts

theorem account_insert {participants : Table String Participant}
    {identity : String} {participant changed : Participant}
    (found : participants.get? identity = some participant)
    (same : changed.account = participant.account) (other : String) :
    ((participants.insert identity changed).get? other).map
        Participant.account =
      (participants.get? other).map Participant.account := by
  rw [Table.get?_insert]
  split
  · next here =>
      rw [here, found]
      exact congrArg some same
  · rfl

theorem account_modify (participants : Table String Participant)
    (identity : String) {change : Participant → Participant}
    (same : ∀ participant, (change participant).account = participant.account)
    (other : String) :
    ((participants.modify identity change).get? other).map
        Participant.account =
      (participants.get? other).map Participant.account := by
  rw [Table.get?_modify]
  split
  · next here =>
      rw [here, Option.map_map]
      exact congrArg (Option.map · _) (funext same)
  · rfl

theorem account_map (participants : Table String Participant)
    {change : Participant → Participant}
    (same : ∀ participant, (change participant).account = participant.account)
    (other : String) :
    ((participants.map fun _ participant => change participant).get? other).map
        Participant.account =
      (participants.get? other).map Participant.account := by
  rw [Table.get?_map, Option.map_map]
  exact congrArg (Option.map · _) (funext same)

theorem account_wake (elapsed : Nat) (participant : Participant) :
    (participant.wake elapsed).account = participant.account := by
  unfold Participant.wake
  split <;> rfl

theorem account_hush (participant : Participant) :
    participant.hush.account = participant.account := by
  unfold Participant.hush
  split <;> rfl

/-- What every move means for the accounts, as long as the store takes every
record. -/
theorem Outcome.recount {move : Move} (outcome : Outcome meeting move after) :
    Recount meeting move after := by
  cases outcome with
  | joined hears => exact .joined hears rfl rfl
  | left hears => exact .left hears rfl rfl
  | woken =>
      rw [requestOpenings_eq]
      exact .quiet _ rfl (fun _ => isAttendance_resumed)
        (account_map _ (account_wake _))
  | retried _ found => exact .same rfl (account_insert found rfl)
  | spoken hears said takes =>
      rw [ofUtterance?_eq] at said
      split at said
      · cases said
      · next notBlank =>
          obtain rfl := Option.some.inj said
          have visible := mt (Text.trim_eq_empty_iff _).1 notBlank
          exact .spoken _ hears rfl rfl visible rfl rfl rfl
  | openingFailed => exact .same rfl (account_modify _ _ fun _ => rfl)
  | attached found begun tracked none =>
      exact .same rfl (account_insert tracked rfl)
  | discarded found begun tracked held =>
      exact .same rfl (account_insert tracked rfl)
  | paused =>
      exact .quiet _ rfl (fun _ => isAttendance_paused)
        (account_map _ account_hush)
  | collected => exact .same rfl (account_map _ fun _ => rfl)
  | finished =>
      rw [finish_eq]
      exact .same rfl fun _ => rfl
  | _ => exact .same rfl fun _ => rfl

/-! ## Runs -/

theorem introduces_of_not_isAttendance {record : CoreRecord}
    (idle : record.isAttendance = false) : record.introduces = false := by
  cases record with
  | transcript spoken => cases idle
  | lifecycle entry =>
      obtain ⟨time, participant, kind⟩ := entry
      cases kind <;> first | rfl | cases idle

/-- `meeting.IsTallied` means that the records tell what is counted for the
participants, and that what is on record as said was trimmed and counted. -/
structure IsTallied (meeting : Meeting) : Prop where
  told : ∀ identity participant,
    meeting.participants.get? identity = some participant →
      participant.IsTold meeting.records identity
  trimmed : ∀ spoken, .transcript spoken ∈ meeting.records →
    Text.trim spoken.text = spoken.text ∧ spoken.text ≠ "" ∧
      spoken.wordCount = .ofNat (Text.wordCount spoken.text)

theorem Recount.isTallied {move : Move} (tallied : meeting.IsTallied)
    (recount : Recount meeting move after) : after.IsTallied := by
  obtain ⟨told, trimmed⟩ := tallied
  -- A lifecycle record is nothing that was said.
  have stillTrimmed {more : List CoreRecord}
      (records : after.records = meeting.records ++ more)
      (silent : ∀ spoken, .transcript spoken ∉ more) :
      ∀ spoken, .transcript spoken ∈ after.records →
        Text.trim spoken.text = spoken.text ∧ spoken.text ≠ "" ∧
          spoken.wordCount = .ofNat (Text.wordCount spoken.text) := by
    intro spoken member
    rw [records, List.mem_append] at member
    exact trimmed spoken (member.resolve_right (silent spoken))
  -- The records about one participant say nothing about another one.
  have others (record : CoreRecord) {other : String}
      (different : other ≠ record.participant) :
      ∀ entry ∈ recordsOf other [record], entry.introduces = false := by
    have none : recordsOf other [record] = [] :=
      (recordsOf_singleton _ _).trans (if_neg (Ne.symm different))
    rw [none]
    exact fun _ member => absurd member List.not_mem_nil
  cases recount with
  | quiet more records idle accounts =>
      refine ⟨fun identity participant found => ?_,
        stillTrimmed records fun spoken member => ?_⟩
      · have same := accounts identity
        rw [found, Option.map_some] at same
        obtain ⟨before, present, account⟩ :=
          Option.map_eq_some_iff.1 same.symm
        rw [records]
        exact (told identity before present).keep
          (fun record member => introduces_of_not_isAttendance
            (idle record (List.mem_of_mem_filter member))) account.symm
      · exact absurd (idle _ member) nofun
  | @joined identity name _ hears records participants =>
      refine ⟨?_, stillTrimmed records fun spoken member => ?_⟩
      · rw [participants, records]
        exact Table.Holds.insert told
          (Participant.isTold_new _ identity _ meeting.clock meeting.elapsed)
          fun other participant different stillTold =>
            stillTold.keep (others _ different) rfl
      · cases List.mem_singleton.1 member
  | @left identity _ hears records participants =>
      refine ⟨?_, stillTrimmed records fun spoken member => ?_⟩
      · rw [participants, records]
        exact (Table.Holds.erase told).mono fun other participant stillTold =>
          stillTold.keep (fun record member => by
            rw [List.mem_singleton.1 (List.mem_of_mem_filter member)]
            rfl) rfl
      · cases List.mem_singleton.1 member
  | @spoken identity text _ transcript hears own cut notBlank counted records
      participants =>
      subst own
      refine ⟨?_, fun spoken member => ?_⟩
      · rw [participants, records]
        exact Table.Holds.modify told
          (fun participant stillTold =>
            stillTold.speak rfl counted meeting.elapsed)
          fun other participant different stillTold =>
            stillTold.keep (others _ different) rfl
      · rw [records, List.mem_append, List.mem_singleton] at member
        rcases member with before | now
        · exact trimmed spoken before
        · obtain rfl := CoreRecord.transcript.inj now
          exact ⟨by rw [cut, Text.trim_trim], notBlank, counted⟩

/-- The store of a meeting counts the records of the meeting. -/
theorem IsLogged.counts {storeOptions : StoreOptions}
    (logged : meeting.IsLogged storeOptions) :
    meeting.store.statistics.Counts meeting.records := by
  have counted := (Statistics.counts_new storeOptions.room
    storeOptions.started.time).addAll meeting.records
  rcases logged with recording | ⟨ended, finalized⟩
  · rw [recording.counted]
    exact counted
  · rw [finalized.counted]
    exact counted.frame rfl rfl rfl

/-- Whoever is tracked has an entry in the statistics. -/
theorem exists_entry {statistics : Statistics} {identity : String}
    {participant : Participant}
    (counts : statistics.Counts meeting.records)
    (told : participant.IsTold meeting.records identity) :
    ∃ entry, statistics.participants.get? identity = some entry ∧
      entry.tally =
        Tally.ofRecords (recordsOf identity meeting.records) := by
  obtain ⟨record, own, joined⟩ :=
    List.mem_filterMap.1 (List.mem_of_getLast? told.1)
  have known : (ParticipantStatistics.ofRecords? identity
      (recordsOf identity meeting.records)).isSome = true := by
    rw [ParticipantStatistics.ofRecords?_isSome, List.any_eq_true]
    exact ⟨record, own, by simp [CoreRecord.introduces, joined]⟩
  obtain ⟨entry, found⟩ := Option.isSome_iff_exists.1 known
  exact ⟨entry, (counts.entries identity).trans found,
    ParticipantStatistics.tally_of_ofRecords? found⟩

/-- A blank utterance leaves nothing but a line in the trace. -/
theorem perform_blank (meeting : Meeting) (identity : String) {text : String}
    (blank : Text.allBlank text = true) :
    (∃ note, meeting.perform (.handle (.utterance identity text)) =
        meeting.note note) ∧
      ∃ note, meeting.perform (.tell (.utterance identity text)) =
        meeting.note note := by
  have nothing : Transcript.ofUtterance? meeting.clock identity text =
      none := by
    rw [ofUtterance?_eq, if_pos blank]
  simp only [perform, handle, receive, hear, nothing]
  exact ⟨by split <;> exact ⟨_, rfl⟩, _, rfl⟩

end Meeting

/-- `event.isAttendance` means that somebody joins, leaves or speaks. -/
def RoomEvent.isAttendance : RoomEvent → Bool
  | .trackSubscribed _ => false
  | _ => true

/-- `move.isAttendance` means that the move is an event by which somebody joins,
leaves or speaks. -/
def Move.isAttendance (move : Move) : Bool :=
  move.event?.any RoomEvent.isAttendance

namespace Meeting

variable {meeting after : Meeting}

/-- Other moves change no account, and nothing that they put on record
counts. -/
theorem Recount.of_not_isAttendance {move : Move}
    (recount : Recount meeting move after)
    (other : move.isAttendance = false) :
    (∀ identity, (after.participant? identity).map Participant.account =
      (meeting.participant? identity).map Participant.account) ∧
      after.records.filter CoreRecord.isAttendance =
        meeting.records.filter CoreRecord.isAttendance := by
  cases recount with
  | quiet more records idle accounts =>
      refine ⟨accounts, ?_⟩
      have none : more.filter CoreRecord.isAttendance = [] :=
        List.filter_eq_nil_iff.2 fun record member => by
          rw [idle record member]
          exact Bool.false_ne_true
      rw [records, List.filter_append, none, List.append_nil]
  | joined hears | left hears | spoken _ hears =>
      rw [Move.isAttendance, hears.event?_eq] at other
      cases other

/-- A meeting and its store tell the same about what is said. In every run in
which the store takes every record, the meeting counts for each participant what
is on record as said by them since they joined last, and the store counts all
that is on record as said by them, whether they were tracked then or not. Blank
utterances change nothing, and whatever happens besides joining, leaving and
speaking resets nothing. -/
theorem counts_tell_what_was_said {options : MeetingOptions}
    {storeOptions : StoreOptions} {files : FileTree} {began : Moment}
    {begun : Meeting}
    (started :
      (Meeting.new options storeOptions files began).start =
        (begun, .ok ()))
    {moves : List Move} (taken : begun.takesAll moves = true) :
    let reached := begun.performAll moves
    (∀ identity participant,
      reached.participant? identity = some participant →
      lastJoined? identity reached.records = some participant.joinedAt ∧
      participant.tally =
        Tally.ofRecords (latestStay identity reached.records) ∧
      ∃ entry,
        reached.store.statistics.participants.get? identity = some entry ∧
        entry.tally = Tally.ofRecords (recordsOf identity reached.records)) ∧
    (∀ identity entry,
      reached.store.statistics.participants.get? identity = some entry →
      entry.tally = Tally.ofRecords (recordsOf identity reached.records)) ∧
    (∀ spoken, .transcript spoken ∈ reached.records →
      Text.trim spoken.text = spoken.text ∧ spoken.text ≠ "" ∧
        spoken.wordCount = .ofNat (Text.wordCount spoken.text)) ∧
    (∀ identity text, Text.allBlank text = true →
      ∀ move ∈ [.handle (.utterance identity text),
        Move.tell (.utterance identity text)],
      let after := reached.perform move
      after.participants = reached.participants ∧
        after.store = reached.store ∧ after.records = reached.records) ∧
    ∀ move : Move, move.isAttendance = false → reached.takes move = true →
      let after := reached.perform move
      (∀ identity, (after.participant? identity).map Participant.account =
        (reached.participant? identity).map Participant.account) ∧
      after.store.statistics =
        { reached.store.statistics with
          endedAt := after.store.statistics.endedAt } := by
  intro reached
  have keyed := start_isKeyed started
  have tallied : reached.IsTallied := by
    refine performAll_induction
      (motive := fun _ meeting => meeting.IsTallied) keyed ?_ taken
      fun _ _ _ _ _ _ held outcome => outcome.recount.isTallied held
    obtain ⟨-, rfl⟩ := start_ok started
    exact ⟨fun identity participant found => by simp [Meeting.new] at found,
      fun spoken member => absurd member List.not_mem_nil⟩
  have logged : reached.IsLogged storeOptions :=
    performAll_isLogged keyed (start_isLogged started) taken
  have reachedKeyed : reached.IsKeyed := reached_isKeyed started taken
  refine ⟨fun identity participant found => ?_, fun identity entry found => ?_,
    tallied.trimmed, fun identity text blank move member => ?_,
    fun move other takes => ?_⟩
  · have told := tallied.told identity participant found
    exact ⟨told.1, told.2, exists_entry logged.counts told⟩
  · exact ParticipantStatistics.tally_of_ofRecords?
      ((logged.counts.entries identity).symm.trans found)
  · obtain ⟨⟨note, handled⟩, noteToo, told⟩ :=
      reached.perform_blank identity blank
    rcases List.mem_pair.1 member with rfl | rfl
    · rw [handled]
      exact ⟨rfl, rfl, rfl⟩
    · rw [told]
      exact ⟨rfl, rfl, rfl⟩
  · have outcome := perform_outcome reachedKeyed takes
    obtain ⟨accounts, same⟩ := outcome.recount.of_not_isAttendance other
    exact ⟨accounts,
      statistics_agree logged (outcome.isLogged logged) same⟩

/-- Somebody leaves, is heard once more, and comes back. -/
def heardBetweenStays : List Move :=
  [.handle (.joined "ada" none), .handle (.utterance "ada" "good morning"),
    .handle (.left "ada"), .handle (.utterance "ada" " so long "),
    .handle (.joined "ada" none), .handle (.utterance "ada" "Hello")]

/-- The meeting counts what was said after coming back, the store all of it. -/
theorem counts_of_heardBetweenStays :
    small.start.1.takesAll heardBetweenStays = true ∧
    ∃ participant entry,
      (small.start.1.performAll heardBetweenStays).participant? "ada" =
        some participant ∧
      participant.tally = ⟨1, 1, 5⟩ ∧
      (small.start.1.performAll
        heardBetweenStays).store.statistics.participants.get? "ada" = some entry ∧
      entry.tally = ⟨5, 3, 24⟩ := by
  have taken : small.start.1.takesAll heardBetweenStays = true := by
    decide +kernel
  have tracked : ((small.start.1.performAll heardBetweenStays).participant?
      "ada").isSome = true := by
    decide +kernel
  obtain ⟨participant, found⟩ := Option.isSome_iff_exists.1 tracked
  obtain ⟨accounts, -⟩ := counts_tell_what_was_said small_starts taken
  obtain ⟨-, tally, entry, present, entryTally⟩ :=
    accounts "ada" participant found
  refine ⟨taken, participant, entry, found, tally.trans ?_, present,
    entryTally.trans ?_⟩
  · decide +kernel
  · decide +kernel

end Meeting

end MeetingLog
