import MeetingLog.Proofs.Repair.Merge
import MeetingLog.Statistics.Summary

/-!
# Repairing twice

A repair of a repaired recording adds nothing. Every gap of the repaired
recording lies in a gap of the recording that was repaired: a recovered record
lies in such a gap or at most as far outside as its transcript was noted late,
which is too close for a gap. What can be missing the second time could
therefore be missing the first time, and is known by now.
-/

namespace MeetingLog

open MeetingLog.Calendar
open MeetingLog.Trace

/-- `entry.IsPunctual window` means that a transcript noted inside the window
has a time at most a minute from the moment at which it was noted. -/
def Trace.Recovered.IsPunctual (window : Window) : Recovered → Prop
  | ⟨loggedAt, .transcript transcript⟩ =>
      window.contains loggedAt = true →
        ((window.moment transcript.time).wholeSecondsApart loggedAt).natAbs ≤ 60
  | ⟨_, .lifecycle _⟩ => True

instance (window : Window) :
    (entry : Recovered) → Decidable (entry.IsPunctual window)
  | ⟨_, .transcript _⟩ => inferInstanceAs (Decidable (_ → _))
  | ⟨_, .lifecycle _⟩ => inferInstanceAs (Decidable True)

/-- A punctual entry of the window was noted at most a minute from the time of
its record. -/
theorem Trace.Recovered.IsPunctual.close {window : Window} {entry : Recovered}
    (punctual : entry.IsPunctual window) (timed : entry.IsTimed)
    (inside : window.contains entry.loggedAt = true)
    (place : entry.loggedAt = window.moment entry.loggedAt.time) :
    ((window.moment entry.record.time).wholeSecondsApart
      (window.moment entry.loggedAt.time)).natAbs ≤ 60 := by
  obtain ⟨loggedAt, record⟩ := entry
  cases record with
  | transcript transcript =>
      have date : loggedAt = window.moment loggedAt.time := place
      show ((window.moment transcript.time).wholeSecondsApart
        (window.moment loggedAt.time)).natAbs ≤ 60
      rw [← date]
      exact punctual inside
  | lifecycle lifecycle =>
      have same : lifecycle.time = loggedAt.time := timed.presence _ rfl
      show ((window.moment lifecycle.time).wholeSecondsApart
        (window.moment loggedAt.time)).natAbs ≤ 60
      rw [same, Moment.wholeSecondsApart_self]
      exact Nat.zero_le _

section

variable {recording : Recording} {logger trace room : String} {window : Window}

theorem isWhole_repair (whole : recording.IsWhole) :
    ∀ record ∈ (recording.repair logger trace window room).records,
      record.time.IsWhole := by
  intro record member
  rcases mem_repair.1 member with (inCore | recovered)
  · exact whole.core record inCore
  · obtain ⟨entry, inTrace, rfl, -⟩ := exists_entry_of_mem_recover recovered
    exact (isTimed_readAll inTrace).record

/-! ## Gaps -/

theorem exists_around (whole : recording.IsWhole)
    (punctual : ∀ entry ∈ readAll logger trace, entry.IsPunctual window)
    {first second : CoreRecord}
    (neighbours : AreNeighbours first second
      (recording.repair logger trace window room).records)
    (earlier : first.time.rank < second.time.rank)
    (long : Gap.threshold < (window.moment first.time).wholeSecondsApart
      (window.moment second.time)) :
    (∃ record ∈ sortByTime recording.core,
        record.time.rank ≤ first.time.rank) ∧
      ∃ record ∈ sortByTime recording.core,
        second.time.rank ≤ record.time.rank := by
  have wholeToo : ∀ record ∈
      (recording.repair logger trace window room).records,
      record.time.IsWhole := isWhole_repair whole
  obtain ⟨firstMember, secondMember⟩ := neighbours.mem
  have firstWhole := wholeToo first firstMember
  have secondWhole := wholeToo second secondMember
  have apart (record : CoreRecord)
      (member : record ∈ sortByTime recording.core) :
      record.time.rank ≤ first.time.rank ∨
        second.time.rank ≤ record.time.rank :=
    neighbours.apart isOrdered_repair
      (mem_repair.2 (.inl (mem_sortByTime.1 member)))
  constructor
  · rcases mem_repair.1 firstMember with (inCore | recovered)
    · exact ⟨first, mem_sortByTime.2 inCore, Nat.le_refl _⟩
    obtain ⟨entry, inTrace, rfl, missable⟩ :=
      exists_entry_of_mem_recover recovered
    have timed := isTimed_readAll inTrace
    obtain ⟨inside, place, left, right, around, behind, -, -⟩ :=
      isMissable_iff.1 missable
    rcases apart left around.mem.1 with (low | high)
    · exact ⟨left, around.mem.1, low⟩
    · -- The entry was noted behind `second`, too long after its time.
      have near := (punctual entry inTrace).close timed inside place
      have farther := Moment.wholeSecondsApart_le window.date
        firstWhole firstWhole secondWhole timed.logged (Nat.le_refl _) earlier
        (Nat.le_trans high (Nat.le_of_lt behind))
      have bound : ((window.moment entry.record.time).wholeSecondsApart
          (window.moment entry.loggedAt.time)) ≤ 60 := by omega
      exact absurd (Int.lt_of_lt_of_le long farther) (Int.not_lt.2 bound)
  · rcases mem_repair.1 secondMember with (inCore | recovered)
    · exact ⟨second, mem_sortByTime.2 inCore, Nat.le_refl _⟩
    obtain ⟨entry, inTrace, rfl, missable⟩ :=
      exists_entry_of_mem_recover recovered
    have timed := isTimed_readAll inTrace
    obtain ⟨inside, place, left, right, around, -, before, -⟩ :=
      isMissable_iff.1 missable
    rcases apart right around.mem.2 with (low | high)
    · -- The entry was noted in front of `first`, too long before its time.
      have near := (punctual entry inTrace).close timed inside place
      have farther := Moment.wholeSecondsApart_le window.date
        timed.logged firstWhole secondWhole secondWhole
        (Nat.le_trans (Nat.le_of_lt before) low) earlier (Nat.le_refl _)
      have swapped := Moment.wholeSecondsApart_swap
        (window.moment entry.record.time) (window.moment entry.loggedAt.time)
      have bound : ((window.moment entry.loggedAt.time).wholeSecondsApart
          (window.moment entry.record.time)) ≤ 60 := by omega
      exact absurd (Int.lt_of_lt_of_le long farther) (Int.not_lt.2 bound)
    · exact ⟨right, around.mem.2, high⟩

/-- What can be missing from the repaired recording could be missing from the
recording, if the window has the date it had and admits the moment. -/
theorem isMissable_of_repair (whole : recording.IsWhole)
    (punctual : ∀ entry ∈ readAll logger trace, entry.IsPunctual window)
    {windowToo : Window} (sameDate : windowToo.date = window.date)
    {moment : Moment} (admitted : window.contains moment = true)
    (missable : isMissable windowToo
      (gapsOf windowToo (recording.repair logger trace window room).records)
      moment = true) :
    isMissable window (gapsOf window (sortByTime recording.core)) moment =
      true := by
  have sameMoment (time : ClockTime) :
      windowToo.moment time = window.moment time := by
    rw [Window.moment, sameDate, Window.moment]
  obtain ⟨-, place, first, second, neighbours, behind, before, long⟩ :=
    isMissable_iff.1 missable
  rw [sameMoment] at place
  rw [sameMoment, sameMoment] at long
  have earlier : first.time.rank < second.time.rank := by omega
  have wholeToo : ∀ record ∈
      (recording.repair logger trace window room).records,
      record.time.IsWhole := isWhole_repair whole
  have wholeCore : ∀ record ∈ sortByTime recording.core,
      record.time.IsWhole := fun record member =>
    whole.core record (mem_sortByTime.1 member)
  obtain ⟨firstMember, secondMember⟩ := neighbours.mem
  obtain ⟨existsBefore, existsBehind⟩ :=
    exists_around whole punctual neighbours earlier long
  obtain ⟨left, right, around, low, high⟩ :=
    exists_neighbours (isOrdered_sortByTime recording.core) earlier
      (fun record member => neighbours.apart isOrdered_repair
        (mem_repair.2 (.inl (mem_sortByTime.1 member))))
      existsBefore existsBehind
  have longer := Moment.wholeSecondsApart_le window.date
    (wholeCore left around.mem.1) (wholeToo first firstMember)
    (wholeToo second secondMember) (wholeCore right around.mem.2) low earlier
    high
  exact isMissable_iff.2 ⟨admitted, place, left, right, around, by omega,
    by omega, Int.lt_of_lt_of_le long longer⟩

/-- A second repair on the same date recovers nothing. -/
theorem recover_repair (whole : recording.IsWhole)
    (punctual : ∀ entry ∈ readAll logger trace, entry.IsPunctual window)
    {windowToo : Window} (sameDate : windowToo.date = window.date)
    (admitted : ∀ entry ∈ readAll logger trace,
      isMissable windowToo
        (gapsOf windowToo (recording.repair logger trace window room).records)
        entry.loggedAt = true →
      window.contains entry.loggedAt = true) :
    recover logger windowToo
      (recording.repair logger trace window room).records trace = [] := by
  refine adopt_eq_nil fun record member => ?_
  obtain ⟨entry, found, rfl⟩ := List.mem_map.1 member
  obtain ⟨inTrace, missable⟩ := List.mem_filter.1 found
  exact isKnown_repair inTrace
    (isMissable_of_repair whole punctual sameDate
      (admitted entry inTrace missable) missable)

/-! ## Windows -/

def Repaired.asRecording (repaired : Repaired) : Recording where
  header := repaired.header
  footer := some ⟨repaired.footer.endedAt.wholeSecond⟩
  core := repaired.records

theorem recordLines_eq (repaired : Repaired) :
    repaired.recordLines = recordText repaired.asRecording.records := by
  have front : repaired.recordLines =
      recordText ((repaired.header.map Record.header).toList ++
        repaired.records.map Record.core ++ [.footer repaired.footer]) := rfl
  have back : recordText repaired.asRecording.records =
      recordText ((repaired.header.map Record.header).toList ++
        repaired.records.map Record.core ++
          [.footer ⟨repaired.footer.endedAt.wholeSecond⟩]) := rfl
  rw [front, back, recordText_append _ [_], recordText_append _ [_],
    recordText_singleton, recordText_singleton,
    Record.line_footer_wholeSecond]

theorem isWhole_asRecording (whole : recording.IsWhole) :
    (recording.repair logger trace window room).asRecording.IsWhole where
  header := whole.header
  footer footer found := by
    obtain rfl := Option.some.inj found
    exact ClockTime.isWhole_wholeSecond _
  core := by
    show ∀ record ∈ (recording.repair logger trace window room).records,
      record.time.IsWhole
    exact isWhole_repair whole

/-- A repaired recording is read back from its lines, where the footer loses
its fraction of a second. -/
theorem read_recordLines (whole : recording.IsWhole) :
    Recording.read (recording.repair logger trace window room).recordLines =
      (recording.repair logger trace window room).asRecording := by
  rw [recordLines_eq]
  exact Recording.read_recordText (isWhole_asRecording whole)

end

/-- A time with a later one on the same day is not behind the last plain second
of the day. -/
theorem rank_le_endOfDay {time later : ClockTime} (whole : time.IsWhole)
    (laterWhole : later.IsWhole) (earlier : time.rank < later.rank) :
    time.rank ≤ ClockTime.endOfDay.rank := by
  have timeZero : time.nanosecond.val = 0 := whole
  have laterZero : later.nanosecond.val = 0 := laterWhole
  have hour := later.hour.isLt
  have minute := later.minute.isLt
  have second := later.second.isLt
  have last : ClockTime.endOfDay.rank =
      ((23 * 60 + 59) * 61 + 59) * 1000000000 := rfl
  rw [ClockTime.rank, ClockTime.rank] at earlier
  rw [last, ClockTime.rank]
  omega

/-- The window found anew ends where the window ended, or the window reached to
the end of the day. -/
theorem finish_ofRecording {recording : Recording} (whole : recording.IsWhole)
    (logger trace room : String) (window : Window) (date : Date)
    (start finish : Option ClockTime) :
    (Window.ofRecording
        (recording.repair logger trace window room).asRecording date start
          finish).finish =
        (Window.ofRecording recording date start finish).finish ∨
      (Window.ofRecording recording date start finish).finish =
        date.atTime .endOfDay := by
  cases finish with
  | some time => exact .inl rfl
  | none =>
      cases found : recording.footer with
      | none =>
          refine .inr ?_
          simp only [Window.ofRecording, found]
          rfl
      | some footer =>
          have kept : (recording.repair logger trace window room).footer =
              footer := by
            show repairedFooter recording window _ = footer
            rw [repairedFooter, found]
          refine .inl (congrArg date.atTime ?_)
          rw [Repaired.asRecording, kept, found]
          exact ClockTime.wholeSecond_eq (whole.footer footer found)

/-- The window found anew admits nothing new that can be missing. -/
theorem contains_of_isMissable {recording : Recording}
    (whole : recording.IsWhole) {logger trace room : String} {date : Date}
    {start finish : Option ClockTime} {window : Window} {moment : Moment}
    (momentWhole : moment.time.IsWhole)
    (missable : isMissable
      (Window.ofRecording
        (recording.repair logger trace window room).asRecording date start
          finish)
      (gapsOf
        (Window.ofRecording
          (recording.repair logger trace window room).asRecording date start
            finish)
        (recording.repair logger trace window room).records)
      moment = true) :
    (Window.ofRecording recording date start finish).contains moment =
      true := by
  obtain ⟨inside, place, first, second, neighbours, -, before, -⟩ :=
    isMissable_iff.1 missable
  obtain ⟨lower, upper⟩ := Bool.and_eq_true_iff.1 inside
  have secondWhole : second.time.IsWhole := by
    have wholeToo : ∀ record ∈
        (recording.repair logger trace window room).records,
        record.time.IsWhole := isWhole_repair whole
    exact wholeToo second neighbours.mem.2
  refine Bool.and_eq_true_iff.2 ⟨lower, ?_⟩
  rcases finish_ofRecording whole logger trace room window date start finish
    with (same | endOfDay)
  · rw [same] at upper
    exact upper
  · rw [endOfDay, place]
    exact (Moment.atMost_atTime date _ _).2
      (rank_le_endOfDay momentWhole secondWhole before)

/-! ## What is written -/

/-- `IsWrittenLike again first` means that two repaired recordings have the
same record lines, the same text forms and the same summary of the
statistics. -/
structure Repaired.IsWrittenLike (again first : Repaired) : Prop where
  recordLines : again.recordLines = first.recordLines
  textForm : ∀ withStatistics,
    again.textForm withStatistics = first.textForm withStatistics
  summary : again.statistics.artifact = first.statistics.artifact

theorem write_wholeSecond (date : Date) (time : ClockTime) :
    (date.atTime time.wholeSecond).write = (date.atTime time).write :=
  rfl

theorem closingBlock_wholeSecond (date : Date) (time : ClockTime)
    (statistics : Option Statistics) :
    closingBlock (date.atTime time.wholeSecond) statistics =
      closingBlock (date.atTime time) statistics := by
  rw [closingBlock, closingBlock, write_wholeSecond]

theorem summary_wholeSecond (statistics : Statistics) (time : ClockTime) :
    { statistics with endedAt := some time.wholeSecond }.artifact =
      { statistics with endedAt := some time }.artifact := by
  have value : { statistics with
      endedAt := some time.wholeSecond }.summary =
      { statistics with endedAt := some time }.summary := by
    rw [Statistics.summary, Statistics.summary]
    rfl
  rw [Statistics.artifact, Statistics.artifact, value]

/-- The end of a repaired recording is written without its fraction. -/
theorem isWrittenLike_of_wholeSecond {again first : Repaired}
    (header : again.header = first.header) (room : again.room = first.room)
    (records : again.records = first.records)
    (footer : again.footer = ⟨first.footer.endedAt.wholeSecond⟩)
    (date : again.window.date = first.window.date)
    (start : again.window.start = first.window.start)
    (statistics : again.statistics =
      { first.statistics with
        endedAt := some first.footer.endedAt.wholeSecond })
    (ended : first.statistics.endedAt = some first.footer.endedAt) :
    again.IsWrittenLike first where
  recordLines := by
    have same : again.asRecording = first.asRecording := by
      rw [Repaired.asRecording, Repaired.asRecording, header, records, footer]
      rfl
    rw [recordLines_eq, recordLines_eq, same]
  textForm withStatistics := by
    have closing : closingBlock (first.window.date.atTime
          first.footer.endedAt.wholeSecond)
          (if withStatistics then some again.statistics else none) =
        closingBlock (first.window.date.atTime first.footer.endedAt)
          (if withStatistics then some first.statistics else none) := by
      rw [closingBlock_wholeSecond, statistics]
      cases withStatistics with
      | false => rfl
      | true =>
          simp only [if_true, closingBlock, Option.map_some]
          rfl
    rw [Repaired.textForm, Repaired.textForm, header, room, records, footer]
    simp only [Window.moment, date, start, closing]
  summary := by
    rw [statistics, summary_wholeSecond, ← ended]

section

variable {recording : Recording} {logger trace room : String}
variable {window windowToo : Window}

theorem sortByTime_repair :
    sortByTime (recording.repair logger trace window room).records =
      (recording.repair logger trace window room).records := by
  have ordered :
      IsOrdered (recording.repair logger trace window room).records :=
    isOrdered_repair
  exact sortByTime_of_isOrdered ordered

theorem statistics_repair :
    (recording.repair logger trace window room).statistics =
      { (Statistics.new room ((recording.header.map Header.startedAt).getD
          window.start.time)).addAll
            (recording.repair logger trace window room).records with
        endedAt :=
          some (recording.repair logger trace window room).footer.endedAt } :=
  rfl

theorem records_repair_again
    (nothing : recover logger windowToo
      (recording.repair logger trace window room).records trace = []) :
    ((recording.repair logger trace window room).asRecording.repair logger
        trace windowToo room).records =
      (recording.repair logger trace window room).records := by
  show sortByTime
    (sortByTime (recording.repair logger trace window room).records ++
      recover logger windowToo
        (sortByTime (recording.repair logger trace window room).records)
        trace) = _
  rw [sortByTime_repair, nothing, List.append_nil, sortByTime_repair]

theorem isWrittenLike_repair_again (sameDate : windowToo.date = window.date)
    (sameStart : windowToo.start = window.start)
    (nothing : recover logger windowToo
      (recording.repair logger trace window room).records trace = []) :
    ((recording.repair logger trace window room).asRecording.repair logger
      trace windowToo room).IsWrittenLike
        (recording.repair logger trace window room) := by
  have records : ((recording.repair logger trace window room).asRecording.repair
      logger trace windowToo room).records =
      (recording.repair logger trace window room).records :=
    records_repair_again nothing
  have started : ((recording.repair logger trace window
        room).asRecording.header.map Header.startedAt).getD
          windowToo.start.time =
      (recording.header.map Header.startedAt).getD window.start.time := by
    rw [sameStart]
    rfl
  refine isWrittenLike_of_wholeSecond rfl rfl records rfl sameDate sameStart ?_
    rfl
  rw [statistics_repair, statistics_repair, records, started]
  rfl

end

section

variable {recording : Recording} {logger trace : String} {date : Date}
variable {start finish : Option ClockTime}

/-- A second repair of what the first one left, in the same window or in the
one found anew, recovers nothing and is written the same. -/
theorem repair_again (whole : recording.IsWhole) (room : String)
    (punctual : ∀ entry ∈ readAll logger trace,
      entry.IsPunctual (Window.ofRecording recording date start finish))
    {window windowToo : Window} {again : Recording}
    (windowEq : window = Window.ofRecording recording date start finish)
    (againEq : again =
      (recording.repair logger trace window room).asRecording)
    (choice : windowToo = window ∨
      windowToo = Window.ofRecording again date start finish) :
    (again.repair logger trace windowToo room).recovered = 0 ∧
      (again.repair logger trace windowToo room).IsWrittenLike
        (recording.repair logger trace window room) := by
  subst againEq
  have sameDate : windowToo.date = window.date := by
    rcases choice with (equality | equality)
    · rw [equality]
    · rw [equality, windowEq, Window.ofRecording, Window.ofRecording]
  have sameStart : windowToo.start = window.start := by
    rcases choice with (equality | equality)
    · rw [equality]
    · rw [equality, windowEq, Window.ofRecording, Window.ofRecording]
      rfl
  have admitted : ∀ entry ∈ readAll logger trace,
      isMissable windowToo
        (gapsOf windowToo (recording.repair logger trace window room).records)
        entry.loggedAt = true →
      window.contains entry.loggedAt = true := by
    intro entry inTrace missable
    rcases choice with (rfl | rfl)
    · exact (isMissable_iff.1 missable).1
    · rw [windowEq]
      exact contains_of_isMissable whole (isTimed_readAll inTrace).logged
        missable
  rw [← windowEq] at punctual
  have nothing : recover logger windowToo
      (recording.repair logger trace window room).records trace = [] :=
    recover_repair whole punctual sameDate admitted
  refine ⟨?_, isWrittenLike_repair_again sameDate sameStart nothing⟩
  show (recover logger windowToo
    (sortByTime (recording.repair logger trace window room).records)
      trace).length = 0
  rw [sortByTime_repair, nothing, List.length_nil]

end

/-- Repairing a repaired recording, in the same window or in the one found
anew, recovers nothing and writes the same. -/
theorem repair_idempotent (content logger trace room : String) (date : Date)
    (start finish : Option ClockTime)
    (punctual : ∀ entry ∈ readAll logger trace,
      entry.IsPunctual
        (Window.ofRecording (Recording.read content) date start finish)) :
    let recording := Recording.read content
    let window := Window.ofRecording recording date start finish
    let first := recording.repair logger trace window room
    let again := Recording.read first.recordLines
    ∀ windowToo,
      windowToo = window ∨
        windowToo = Window.ofRecording again date start finish →
      let second := again.repair logger trace windowToo room
      second.recovered = 0 ∧ second.IsWrittenLike first := by
  intro recording window first again windowToo choice
  have whole : recording.IsWhole := Recording.isWhole_read content
  exact repair_again whole room punctual rfl (read_recordLines whole) choice

def afterTen (minutes seconds : Nat) : ClockTime :=
  .ofPlainSeconds (36000 + 60 * minutes + seconds) 0

/-- A recording without its end, of somebody who came and left. -/
def torn : Recording where
  header := some ⟨"room", afterTen 0 0, "deepgram"⟩
  footer := none
  core :=
    [.lifecycle ⟨afterTen 0 0, "ada", .joined⟩,
      .lifecycle ⟨afterTen 5 0, "ada", .left⟩]

/-- What was said in the recorded meeting. -/
def lostSpeech : Transcript :=
  ⟨afterTen 1 58, "ada", "good morning", 2⟩

/-- A trace of it, noted two seconds later. -/
def spokenTrace : String :=
  String.ofList (Trace.write defaultLogger .info
    [⟨Date.epoch.atTime (afterTen 2 0), .info (spokenMessage lostSpeech)⟩])

theorem readAll_spokenTrace :
    readAll defaultLogger spokenTrace =
      [⟨Date.epoch.atTime (afterTen 2 0), .transcript lostSpeech⟩] := by
  decide +kernel

theorem read_torn : Recording.read (recordText torn.records) = torn :=
  Recording.read_recordText
    ⟨by decide, by decide, by decide⟩

theorem recovered_torn :
    (torn.repair defaultLogger spokenTrace
      (Window.ofRecording torn Date.epoch none none) "room").recovered = 1 := by
  have sorted : sortByTime torn.core = torn.core :=
    sortByTime_of_isOrdered (by decide)
  have adopted : recover defaultLogger
      (Window.ofRecording torn Date.epoch none none) torn.core spokenTrace =
        [.transcript lostSpeech] := by
    rw [recover, readAll_spokenTrace]
    decide +kernel
  show (recover defaultLogger (Window.ofRecording torn Date.epoch none none)
    (sortByTime torn.core) spokenTrace).length = 1
  rw [sorted, adopted, List.length_singleton]

theorem repair_idempotent_of_torn :
    let recording := Recording.read (recordText torn.records)
    let window := Window.ofRecording recording Date.epoch none none
    let first := recording.repair defaultLogger spokenTrace window "room"
    let again := Recording.read first.recordLines
    let windowToo := Window.ofRecording again Date.epoch none none
    let second := again.repair defaultLogger spokenTrace windowToo "room"
    (∀ entry ∈ readAll defaultLogger spokenTrace,
        entry.IsPunctual window) ∧
      first.recovered = 1 ∧
        second.recovered = 0 ∧ second.IsWrittenLike first := by
  have punctual : ∀ entry ∈ readAll defaultLogger spokenTrace,
      entry.IsPunctual (Window.ofRecording
        (Recording.read (recordText torn.records)) Date.epoch none none) := by
    rw [readAll_spokenTrace, read_torn]
    decide
  refine ⟨punctual, ?_,
    repair_idempotent (recordText torn.records) defaultLogger spokenTrace
      "room" Date.epoch none none punctual _ (.inr rfl)⟩
  rw [read_torn]
  exact recovered_torn

end MeetingLog
