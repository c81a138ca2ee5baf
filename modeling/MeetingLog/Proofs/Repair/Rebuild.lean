import MeetingLog.Proofs.Meeting.Retelling
import MeetingLog.Proofs.Repair.Merge

/-!
# Rebuilding a run from its own trace

When records are lost from the log of a meeting, a repair with the trace of this
meeting brings back whoever joined, left or spoke inside the gaps that the loss
has torn, and brings in nothing that was not on record. Only what happened
before the time of day in the header is not brought back, and nothing is if the
trace cannot be read.
-/

namespace MeetingLog

open MeetingLog.Calendar
open MeetingLog.Files
open MeetingLog.Meeting
open MeetingLog.Text
open MeetingLog.Trace

/-- The record lines of a finalized log. -/
def logText (header : Header) (records : List CoreRecord) (footer : Footer) :
    String :=
  recordText (.header header :: records.map Record.core ++ [.footer footer])

/-- `LiesInGap date records record` means that the time of a record lies
strictly between those of two neighbours that are more than a minute apart. -/
def LiesInGap (date : Date) (records : List CoreRecord)
    (record : CoreRecord) : Prop :=
  ∃ first second, AreNeighbours first second records ∧
    first.time.rank < record.time.rank ∧
    record.time.rank < second.time.rank ∧
    60 < (date.atTime first.time).wholeSecondsApart (date.atTime second.time)

/-- `IsFramed meeting date header footer` means that the records of a meeting
are in order and none is later than the footer, and that its trace was made on a
date. -/
structure Meeting.IsFramed (meeting : Meeting) (date : Date) (header : Header)
    (footer : Footer) : Prop where
  opening : header.startedAt.IsWhole
  closing : footer.endedAt.IsWhole
  ordered : IsOrdered meeting.records
  enclosed : ∀ record ∈ meeting.records, record.time.IsWhole ∧
    record.time.rank ≤ footer.endedAt.rank
  dated : ∀ entry ∈ meeting.trace, entry.time.date = date

section

variable {meeting : Meeting} {date : Date} {header : Header} {footer : Footer}
variable {survivors : List CoreRecord} {logger room : String}

/-! ## Reading -/

theorem read_logText (framed : meeting.IsFramed date header footer)
    (left : survivors.Sublist meeting.records) :
    Recording.read (logText header survivors footer) =
      ⟨some header, some footer, survivors⟩ := by
  let recording : Recording := ⟨some header, some footer, survivors⟩
  have whole : recording.IsWhole := by
    refine ⟨fun other found => ?_, fun other found => ?_,
      fun record member => ?_⟩
    · obtain rfl := Option.some.inj found
      exact framed.opening
    · obtain rfl := Option.some.inj found
      exact framed.closing
    · exact (framed.enclosed record (left.mem member)).1
  have text : logText header survivors footer =
      recordText recording.records := rfl
  rw [text]
  exact Recording.read_recordText whole

theorem readAll_trace (framed : meeting.IsFramed date header footer)
    (echoed : meeting.IsEchoed) (oneLine : IsOneLine logger)
    (fourDigits : date.HasFourDigits) :
    readAll logger (String.ofList (write logger .info meeting.trace)) =
      meeting.trace.filterMap Entry.recovered? := by
  refine echoed.readAll_eq oneLine fun entry member => ?_
  rw [framed.dated entry member]
  exact fourDigits

/-! ## The repaired records -/

/-- The window from the time in a header to that in a footer. -/
def windowBetween (date : Date) (header : Header) (footer : Footer) : Window :=
  ⟨date, date.atTime header.startedAt, date.atTime footer.endedAt⟩

/-- What lies in a gap that was torn, and not before the header, can be
missing. -/
theorem isMissable_of_liesInGap (framed : meeting.IsFramed date header footer)
    {record : CoreRecord} (member : record ∈ meeting.records)
    (lies : LiesInGap date survivors record)
    (lower : header.startedAt.rank ≤ record.time.rank) :
    isMissable (windowBetween date header footer)
      (gapsOf (windowBetween date header footer) survivors)
      (date.atTime record.time) = true := by
  obtain ⟨first, second, neighbours, behind, before, long⟩ := lies
  obtain ⟨-, upper⟩ := framed.enclosed record member
  refine isMissable_iff.2 ⟨Bool.and_eq_true_iff.2 ⟨?_, ?_⟩, rfl, first, second,
    neighbours, behind, before, long⟩
  · exact (Moment.atMost_atTime date _ _).2 lower
  · exact (Moment.atMost_atTime date _ _).2 upper

/-- Whoever joined, left or spoke inside a gap is known to the repaired log. -/
theorem isKnown_rebuilt (framed : meeting.IsFramed date header footer)
    (echoed : meeting.IsEchoed) (oneLine : IsOneLine logger)
    (fourDigits : date.HasFourDigits)
    (left : survivors.Sublist meeting.records) {record : CoreRecord}
    (member : record ∈ meeting.records)
    (attendance : record.isAttendance = true)
    (lies : LiesInGap date survivors record)
    (lower : header.startedAt.rank ≤ record.time.rank) :
    isKnown
      (((Recording.mk (some header) (some footer) survivors).repair logger
        (String.ofList (write logger .info meeting.trace))
        (windowBetween date header footer) room).records.map
          Signature.ofRecord) record = true := by
  have sorted : sortByTime survivors = survivors :=
    sortByTime_of_isOrdered (framed.ordered.sublist left)
  obtain ⟨legible, entry, inTrace, told⟩ :=
    echoed.told record member attendance
  have recovered := told.recovered?_eq legible
  have like := record.isLike_collapsed
  have place : entry.time.wholeSecond = date.atTime record.time := by
    rw [Moment.wholeSecond, framed.dated entry inTrace, ← told.time]
    rfl
  rw [place] at recovered
  have inReading : ⟨date.atTime record.time, record.collapsed⟩ ∈ readAll logger
      (String.ofList (write logger .info meeting.trace)) := by
    rw [readAll_trace framed echoed oneLine fourDigits]
    exact List.mem_filterMap.2 ⟨entry, inTrace, recovered⟩
  let damaged : Recording := ⟨some header, some footer, survivors⟩
  let window := windowBetween date header footer
  have missable : isMissable window
      (gapsOf window (sortByTime damaged.core)) (date.atTime record.time) =
        true := by
    rw [sorted]
    exact isMissable_of_liesInGap framed member lies lower
  rw [isKnown_eq_true_iff, ← like.signature, ← like.earlier,
    ← isKnown_eq_true_iff]
  exact isKnown_repair inReading missable

/-- Everything in the repaired log tells of something that was on record. -/
theorem exists_of_mem_rebuilt (framed : meeting.IsFramed date header footer)
    (echoed : meeting.IsEchoed) (oneLine : IsOneLine logger)
    (fourDigits : date.HasFourDigits)
    (left : survivors.Sublist meeting.records) {window : Window}
    {found : CoreRecord}
    (member : found ∈
      ((Recording.mk (some header) (some footer) survivors).repair logger
        (String.ofList (write logger .info meeting.trace)) window
          room).records) :
    ∃ record ∈ meeting.records,
      Signature.ofRecord found = Signature.ofRecord record := by
  rcases mem_repair.1 member with (survived | recovered)
  · exact ⟨found, left.mem survived, rfl⟩
  · obtain ⟨reading, inReading, rfl, -⟩ :=
      exists_entry_of_mem_recover recovered
    rw [readAll_trace framed echoed oneLine fourDigits] at inReading
    obtain ⟨entry, inTrace, read⟩ := List.mem_filterMap.1 inReading
    rcases echoed.telling entry inTrace with (aside | told)
    · have nothing := aside.silent entry.time
      have read : (Entry.mk entry.time entry.note).recovered? =
          some reading := read
      rw [nothing] at read
      cases read
    · obtain ⟨record, inRecords, legible, toldBy⟩ := told
      have equality := toldBy.recovered?_eq legible
      obtain rfl := Option.some.inj (read.symm.trans equality)
      exact ⟨record, inRecords, record.isLike_collapsed.signature⟩

end

/-! ## The finalized log -/

section

variable {meeting : Meeting} {storeOptions : StoreOptions}

/-- The record file of a finalized log holds the lines of a header, of the
records and of a footer. -/
theorem readText_eq_logText {files : FileTree} {store : Store}
    {records : List CoreRecord} {ended : Moment}
    (finalized : Store.IsFinalized storeOptions store files records ended)
    (writes : storeOptions.format.writesRecords = true) :
    files.readText storeOptions.paths.records =
      .ok (logText
        { storeOptions.header with
          startedAt := storeOptions.header.startedAt.wholeSecond }
        records ⟨ended.time⟩) := by
  rw [finalized.lines writes, logText, recordText_append,
    StoreOptions.recordContent, recordText_cons (.header storeOptions.header),
    recordText_cons (.header _), Record.line_header_wholeSecond]

/-- A finalized log of a meeting within one day frames its records. -/
theorem exists_frame (echoed : meeting.IsEchoed)
    (kept : meeting.IsKept storeOptions)
    (finalized : meeting.store.phase = .finalized)
    (writes : storeOptions.format.writesRecords = true)
    (sameDay : meeting.now.date = meeting.began.date) :
    ∃ header footer,
      header.startedAt = storeOptions.started.time.wholeSecond ∧
      meeting.IsFramed meeting.began.date header footer ∧
        meeting.files.readText storeOptions.paths.records =
          .ok (logText header meeting.records footer) := by
  rcases kept with recording | ⟨ended, earlier, stamped, kept⟩
  · rw [recording.phase_eq] at finalized
    cases finalized
  have endedSameDay : (meeting.began.later ended).date = meeting.began.date :=
    date_later earlier sameDay
  refine ⟨_, _, rfl, ⟨ClockTime.isWhole_wholeSecond _,
    ClockTime.isWhole_wholeSecond _, stamped.isOrdered endedSameDay,
    fun record member => ?_, fun entry member => ?_⟩,
    readText_eq_logText kept writes⟩
  · obtain ⟨whole, -, below⟩ := stamped.between endedSameDay record member
    exact ⟨whole, below⟩
  · obtain ⟨elapsed, within, time⟩ := echoed.timed entry member
    rw [time]
    exact date_later within sameDay

/-- A run of legible moves within one day is echoed and framed. -/
theorem exists_frame_of_run {options : MeetingOptions} {files : FileTree}
    {began : Moment} {begun : Meeting} {moves : List Move}
    (started :
      (Meeting.new options storeOptions files began).start = (begun, .ok ()))
    (taken : begun.takesAll moves = true)
    (legible : ∀ move ∈ moves, move.IsLegible)
    (oneLine : storeOptions.IsOneLine)
    (writes : storeOptions.format.writesRecords = true)
    (sameDay : (begun.performAll moves).now.date = began.date)
    (finalized : (begun.performAll moves).store.phase = .finalized) :
    let ended := begun.performAll moves
    ended.began = began ∧ ended.IsEchoed ∧ ∃ header footer,
      header.startedAt = storeOptions.started.time.wholeSecond ∧
      ended.IsFramed began.date header footer ∧
        ended.files.readText storeOptions.paths.records =
          .ok (logText header ended.records footer) := by
  intro ended
  obtain ⟨beganEq, keyed, names, echoed, kept⟩ :=
    start_isEchoed oneLine started
  obtain ⟨sameBegan, echoedToo, keptToo⟩ :=
    performAll_isEchoed keyed names echoed kept oneLine taken legible
  have endedBegan : ended.began = began := sameBegan.trans beganEq
  subst endedBegan
  exact ⟨rfl, echoedToo,
    exists_frame echoedToo keptToo finalized writes sameDay⟩

end

/-- A run within one day, of which some records are lost from the finalized log,
is rebuilt from its own trace: whoever joined, left or spoke strictly inside a
gap between the surviving records, and not before the time of day in the header,
is in the repaired log again, joining and leaving perhaps one second earlier,
and everything in the repaired log tells of something that was on record. The
year has to have four digits and the name of the logger has to be on one line,
or the trace is not read. -/
theorem rebuild_from_own_trace {options : MeetingOptions}
    {storeOptions : StoreOptions} {files : FileTree} {began : Moment}
    {begun : Meeting} {moves : List Move} {logger : String}
    (started :
      (Meeting.new options storeOptions files began).start = (begun, .ok ()))
    (taken : begun.takesAll moves = true)
    (legible : ∀ move ∈ moves, move.IsLegible)
    (oneLine : storeOptions.IsOneLine) (loggerOneLine : IsOneLine logger)
    (writes : storeOptions.format.writesRecords = true)
    (fourDigits : began.date.HasFourDigits)
    (sameDay : (begun.performAll moves).now.date = began.date)
    (finalized : (begun.performAll moves).store.phase = .finalized) :
    let ended := begun.performAll moves
    ∃ header footer,
      header.startedAt = storeOptions.started.time.wholeSecond ∧
      ended.files.readText storeOptions.paths.records =
        .ok (logText header ended.records footer) ∧
      ∀ survivors, survivors.Sublist ended.records → ∀ room,
        let damaged := Recording.read (logText header survivors footer)
        let window := Window.ofRecording damaged began.date none none
        let trace := String.ofList (Trace.write logger .info ended.trace)
        let output := (damaged.repair logger trace window room).records
        (∀ record ∈ ended.records, record.isAttendance = true →
          LiesInGap began.date survivors record →
          header.startedAt.rank ≤ record.time.rank →
          ∃ found ∈ output,
            Signature.ofRecord found = Signature.ofRecord record ∨
              Signature.ofPreviousSecond? record =
                some (Signature.ofRecord found)) ∧
        ∀ found ∈ output, ∃ record ∈ ended.records,
          Signature.ofRecord found = Signature.ofRecord record := by
  intro ended
  obtain ⟨-, echoed, header, footer, startedAt, framed, content⟩ :=
    exists_frame_of_run started taken legible oneLine writes sameDay finalized
  refine ⟨header, footer, startedAt, content, fun survivors left room => ?_⟩
  rw [read_logText framed left]
  intro damaged window trace output
  refine ⟨fun record member attendance lies lower => ?_,
    fun found member => ?_⟩
  · have known : isKnown (output.map Signature.ofRecord) record = true :=
      isKnown_rebuilt framed echoed loggerOneLine fourDigits left member
        attendance lies lower
    rcases isKnown_eq_true_iff.1 known with (same | ⟨earlier, equality, seen⟩)
    · obtain ⟨found, inOutput, equal⟩ := List.mem_map.1 same
      exact ⟨found, inOutput, .inl equal⟩
    · obtain ⟨found, inOutput, rfl⟩ := List.mem_map.1 seen
      exact ⟨found, inOutput, .inr equality⟩
  · exact exists_of_mem_rebuilt framed echoed loggerOneLine fourDigits left
      member

/-! ## A run with a loss -/

/-- Somebody joins, says something and leaves, with more than a minute in
between. -/
def speakingOnce : List Move :=
  [.handle (.joined "ada" none), .tick 70000,
    .handle (.utterance "ada" "good morning"), .tick 70000,
    .handle (.left "ada"), .stopListening, .abandonPending, .collectSessions,
    .finish 0]

theorem records_speakingOnce :
    (small.start.1.performAll speakingOnce).records =
      [.lifecycle ⟨⟨0, 0, 0, 0⟩, "ada", .joined⟩,
        .transcript ⟨⟨0, 1, 10, 0⟩, "ada", "good morning", 2⟩,
        .lifecycle ⟨⟨0, 2, 20, 0⟩, "ada", .left⟩] := by
  decide +kernel

theorem isLegible_speakingOnce : ∀ move ∈ speakingOnce, move.IsLegible := by
  have name : IsName "ada" :=
    ⟨by decide, by decide, by decide, by decide⟩
  have plain : IsPlain "good morning" := by decide
  intro move member
  rw [speakingOnce] at member
  simp only [List.mem_cons, List.not_mem_nil, or_false] at member
  rcases member with
    (rfl | rfl | rfl | rfl | rfl | rfl | rfl | rfl | rfl)
  · exact name
  · trivial
  · exact ⟨name, plain⟩
  · trivial
  · exact name
  all_goals trivial

/-- What was said is lost, and comes back. -/
theorem rebuild_of_speakingOnce :
    small.start.1.takesAll speakingOnce = true ∧
    (∀ move ∈ speakingOnce, move.IsLegible) ∧
    let ended := small.start.1.performAll speakingOnce
    ∃ header footer,
      ended.files.readText small.store.options.paths.records =
        .ok (logText header ended.records footer) ∧
      let survivors : List CoreRecord :=
        [.lifecycle ⟨⟨0, 0, 0, 0⟩, "ada", .joined⟩,
          .lifecycle ⟨⟨0, 2, 20, 0⟩, "ada", .left⟩]
      let damaged := Recording.read (logText header survivors footer)
      let window := Window.ofRecording damaged Date.epoch none none
      let trace :=
        String.ofList (Trace.write defaultLogger .info ended.trace)
      ∃ found ∈ (damaged.repair defaultLogger trace window "standup").records,
        Signature.ofRecord found =
          ⟨⟨0, 1, 10, 0⟩, "ada", .speech "goodmorning"⟩ := by
  have taken : small.start.1.takesAll speakingOnce = true := by
    decide +kernel
  refine ⟨taken, isLegible_speakingOnce, ?_⟩
  intro ended
  obtain ⟨header, footer, startedAt, content, rebuilt⟩ :=
    rebuild_from_own_trace small_starts taken isLegible_speakingOnce
      ⟨by decide, by decide⟩ (by decide : IsOneLine defaultLogger) rfl
      (by decide) (by decide +kernel) (by decide +kernel)
  refine ⟨header, footer, content, ?_⟩
  intro survivors damaged window trace
  have left : survivors.Sublist ended.records := by
    rw [show ended.records = _ from records_speakingOnce]
    decide
  obtain ⟨complete, -⟩ := rebuilt survivors left "standup"
  obtain ⟨found, inOutput, same | earlier⟩ :=
    complete (.transcript ⟨⟨0, 1, 10, 0⟩, "ada", "good morning", 2⟩)
      (by rw [records_speakingOnce]; decide) rfl
      ⟨_, _, ⟨[], [], rfl⟩, by decide, by decide, by decide⟩
      (by rw [startedAt]; decide)
  · refine ⟨found, inOutput, same.trans ?_⟩
    decide
  · cases earlier

/-! ## Runs that are not rebuilt -/

/-- `meeting.EndsWithinDay moves` means that the meeting begins, that it ends
with the moves on the day on which it began, and that the store takes every
record and writes it to a record file. -/
structure Meeting.EndsWithinDay (meeting : Meeting) (moves : List Move) :
    Prop where
  started : meeting.start = (meeting.start.1, .ok ())
  taken : meeting.start.1.takesAll moves = true
  oneLine : meeting.store.options.IsOneLine
  writes : meeting.store.options.format.writesRecords = true
  sameDay : (meeting.start.1.performAll moves).now.date = meeting.began.date
  finalized : (meeting.start.1.performAll moves).store.phase = .finalized

/-- `meeting.MissesSpeech moves logger` means that something said in the course
of the moves, once lost from the finalized log, is not brought back by a repair
with the trace of the meeting, although it lies strictly inside a gap. -/
def Meeting.MissesSpeech (meeting : Meeting) (moves : List Move)
    (logger : String) : Prop :=
  let ended := meeting.start.1.performAll moves
  ∃ header footer front spoken back,
    ended.files.readText meeting.store.options.paths.records =
      .ok (logText header ended.records footer) ∧
    ended.records = front ++ .transcript spoken :: back ∧
    LiesInGap meeting.began.date (front ++ back) (.transcript spoken) ∧
    ∀ room,
      let damaged := Recording.read (logText header (front ++ back) footer)
      let window := Window.ofRecording damaged meeting.began.date none none
      let trace := String.ofList (Trace.write logger .info ended.trace)
      ∀ found ∈ (damaged.repair logger trace window room).records,
        Signature.ofRecord found ≠ Signature.ofRecord (.transcript spoken)

/-- What was said between coming and leaving is missed if the reading holds
nothing from the time of day in the header on. -/
theorem missesSpeech_of_run {options : MeetingOptions}
    {storeOptions : StoreOptions} {files : FileTree} {began : Moment}
    {moves : List Move} {logger : String} {came gone : Lifecycle}
    {spoken : Transcript} {ended : Meeting}
    (ends : (Meeting.new options storeOptions files began).EndsWithinDay moves)
    (legible : ∀ move ∈ moves, move.IsLegible)
    (end_eq : ended =
      (Meeting.new options storeOptions files began).start.1.performAll moves)
    (records : ended.records =
      [.lifecycle came, .transcript spoken, .lifecycle gone])
    (lies : LiesInGap began.date [.lifecycle came, .lifecycle gone]
      (.transcript spoken))
    (nothing : ∀ entry ∈
      readAll logger (String.ofList (write logger .info ended.trace)),
      (began.date.atTime storeOptions.started.time.wholeSecond).atMost
        entry.loggedAt = false) :
    (Meeting.new options storeOptions files began).MissesSpeech moves
      logger := by
  subst end_eq
  obtain ⟨-, -, header, footer, startedAt, framed, content⟩ :=
    exists_frame_of_run ends.started ends.taken legible ends.oneLine
      ends.writes ends.sameDay ends.finalized
  have left : [CoreRecord.lifecycle came, .lifecycle gone].Sublist
      [.lifecycle came, .transcript spoken, .lifecycle gone] :=
    .cons_cons _ (.cons _ (.refl _))
  rw [← records] at left
  have read := read_logText framed left
  refine ⟨header, footer, [.lifecycle came], spoken, [.lifecycle gone],
    content, records, lies, fun room => ?_⟩
  rw [List.singleton_append, read]
  intro damaged window trace found member same
  have origin : found ∈ damaged.core ∨
      found ∈ recover logger window (sortByTime damaged.core) trace :=
    mem_repair.1 member
  rcases origin with survived | recovered
  · rcases List.mem_pair.1 survived with rfl | rfl
    · cases congrArg Signature.content same
    · cases congrArg Signature.content same
  · obtain ⟨entry, inTrace, -, missable⟩ :=
      exists_entry_of_mem_recover recovered
    have inside : window.contains entry.loggedAt = true :=
      (isMissable_iff.1 missable).1
    have within : (began.date.atTime header.startedAt).atMost
        entry.loggedAt = true :=
      (Bool.and_eq_true_iff.1 inside).1
    rw [startedAt, nothing entry inTrace] at within
    cases within

/-- A small meeting that was not started yet, on the day after its store was set
up. -/
def smallAfterEvening : Meeting :=
  Meeting.new small.options
    { small.store.options with started := Date.epoch.atTime .endOfDay }
    (FileTree.empty .epoch) ((Date.epoch.later 1).atTime .midnight)

/-- What was said is missed if the store was set up later in the day than it was
said, if the trace was written by a logger whose name is on two lines, and if
years had five digits. -/
theorem rebuild_misses_speech :
    (∀ move ∈ speakingOnce, move.IsLegible) ∧
      (smallAfterEvening.EndsWithinDay speakingOnce ∧
        smallAfterEvening.MissesSpeech speakingOnce defaultLogger) ∧
      (small.EndsWithinDay speakingOnce ∧
        small.MissesSpeech speakingOnce "two\nlines") ∧
      smallAfterFourDigits.EndsWithinDay speakingOnce ∧
        smallAfterFourDigits.MissesSpeech speakingOnce defaultLogger := by
  have evening : smallAfterEvening.EndsWithinDay speakingOnce :=
    ⟨Prod.ext rfl (by decide +kernel), by decide +kernel,
      ⟨by decide, by decide⟩, rfl, by decide +kernel, by decide +kernel⟩
  have midnight : small.EndsWithinDay speakingOnce :=
    ⟨small_starts, by decide +kernel, ⟨by decide, by decide⟩, rfl,
      by decide +kernel, by decide +kernel⟩
  have late : smallAfterFourDigits.EndsWithinDay speakingOnce :=
    ⟨Prod.ext rfl (by decide +kernel), by decide +kernel,
      ⟨by decide, by decide⟩, rfl, by decide +kernel, by decide +kernel⟩
  have lies : ∀ date, LiesInGap date
      [.lifecycle ⟨⟨0, 0, 0, 0⟩, "ada", .joined⟩,
        .lifecycle ⟨⟨0, 2, 20, 0⟩, "ada", .left⟩]
      (.transcript ⟨⟨0, 1, 10, 0⟩, "ada", "good morning", 2⟩) := by
    intro date
    refine ⟨_, _, ⟨[], [], rfl⟩, by decide, by decide, ?_⟩
    show 60 < (date.atTime ⟨0, 0, 0, 0⟩).wholeSecondsApart
      (date.atTime ⟨0, 2, 20, 0⟩)
    rw [Moment.wholeSecondsApart_eq (by decide) (by decide) (by decide)]
    decide
  refine ⟨isLegible_speakingOnce, ⟨evening, ?_⟩, ⟨midnight, ?_⟩, late, ?_⟩
  · refine missesSpeech_of_run evening isLegible_speakingOnce rfl
      (by decide +kernel) (lies _) ?_
    rw [readAll_ofList]
    decide +kernel
  · refine missesSpeech_of_run midnight isLegible_speakingOnce rfl
      (by decide +kernel) (lies _) ?_
    rw [readAll_ofList]
    decide +kernel
  · refine missesSpeech_of_run late isLegible_speakingOnce rfl
      (by decide +kernel) (lies _) ?_
    rw [readAll_ofList]
    decide +kernel

end MeetingLog
