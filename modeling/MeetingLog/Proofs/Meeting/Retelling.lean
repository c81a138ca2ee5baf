import MeetingLog.Proofs.Meeting.Echo

/-!
# What the trace retells

The trace of a meeting, read line by line, retells in order who joined, left and
spoke, and nothing else. Only the blanks inside what was said are not kept. The
trace has to be written while years have four digits, by a logger whose name is
on one line.
-/

namespace MeetingLog.Meeting

open MeetingLog.Calendar
open MeetingLog.Files
open MeetingLog.Text
open MeetingLog.Trace

variable {meeting : Meeting} {storeOptions : StoreOptions}

theorem IsEchoed.hasFourDigits (echoed : meeting.IsEchoed)
    (fourDigits : meeting.began.date.HasFourDigits)
    (fourDigitsToo : meeting.now.date.HasFourDigits) :
    ∀ entry ∈ meeting.trace, entry.time.date.HasFourDigits := by
  intro entry member
  obtain ⟨elapsed, within, time⟩ := echoed.timed entry member
  have lower := Moment.rank_later_mono meeting.began (Nat.zero_le elapsed)
  have upper := Moment.rank_later_mono meeting.began within
  rw [Moment.later_zero] at lower
  rw [time]
  exact Moment.hasFourDigits_of_between fourDigits fourDigitsToo lower upper

/-- The trace of a run of legible moves retells the records about those who
joined, left or spoke: they are read back in order and once each, with the
blanks in what was said collapsed and with the signatures they had. -/
theorem trace_retells_attendance {options : MeetingOptions}
    {files : FileTree} {began : Moment} {begun : Meeting} {moves : List Move}
    {logger : String}
    (started :
      (Meeting.new options storeOptions files began).start = (begun, .ok ()))
    (taken : begun.takesAll moves = true)
    (legible : ∀ move ∈ moves, move.IsLegible)
    (oneLine : storeOptions.IsOneLine) (loggerOneLine : IsOneLine logger)
    (fourDigits : began.date.HasFourDigits)
    (fourDigitsToo : (begun.performAll moves).now.date.HasFourDigits) :
    let ended := begun.performAll moves
    let attendance := ended.records.filter CoreRecord.isAttendance
    let retold :=
      (readAll logger (String.ofList (write logger .info ended.trace))).map
        Recovered.record
    retold = attendance.map CoreRecord.collapsed ∧
      retold.map Signature.ofRecord = attendance.map Signature.ofRecord := by
  intro ended attendance retold
  obtain ⟨beganEq, keyed, names, echoed, kept⟩ :=
    start_isEchoed oneLine started
  obtain ⟨sameBegan, echoedToo, -⟩ :=
    performAll_isEchoed keyed names echoed kept oneLine taken legible
  have endedBegan : ended.began = began := sameBegan.trans beganEq
  subst endedBegan
  have reading : retold = attendance.map CoreRecord.collapsed := by
    show (readAll logger _).map Recovered.record = _
    rw [echoedToo.readAll_eq loggerOneLine
      (echoedToo.hasFourDigits fourDigits fourDigitsToo)]
    exact echoedToo.retold
  refine ⟨reading, ?_⟩
  rw [reading, List.map_map]
  exact List.map_congr_left fun record _ =>
    record.isLike_collapsed.signature

/-! ## Short runs -/

/-- Somebody joins and says two words with a gap between them. -/
def greeting : List Move :=
  [.handle (.joined "ada" none), .tick 1500,
    .handle (.utterance "ada" "good   morning")]

theorem isLegible_greeting : ∀ move ∈ greeting, move.IsLegible := by
  have name : IsName "ada" :=
    ⟨by decide, by decide, by decide, by decide⟩
  have plain : IsPlain "good   morning" := by decide
  intro move member
  simp only [greeting, List.mem_cons, List.not_mem_nil, or_false] at member
  rcases member with (rfl | rfl | rfl)
  · exact name
  · trivial
  · exact ⟨name, plain⟩

theorem trace_retells_attendance_of_greeting :
    small.start.1.takesAll greeting = true ∧
      (∀ move ∈ greeting, move.IsLegible) ∧
      (readAll defaultLogger (String.ofList (write defaultLogger .info
        (small.start.1.performAll greeting).trace))).map Recovered.record =
        [.lifecycle ⟨⟨0, 0, 0, 0⟩, "ada", .joined⟩,
          .transcript ⟨⟨0, 0, 1, 0⟩, "ada", "good morning", 2⟩] := by
  have taken : small.start.1.takesAll greeting = true := by decide +kernel
  obtain ⟨retold, -⟩ :=
    trace_retells_attendance small_starts taken isLegible_greeting
      ⟨by decide, by decide⟩ (by decide : IsOneLine defaultLogger)
      (by decide) (by decide +kernel)
  refine ⟨taken, isLegible_greeting, retold.trans ?_⟩
  decide +kernel

/-- The first date with a year of five digits. -/
def afterFourDigits : Date :=
  { Date.epoch with year := 10000, valid := by decide }

/-- A small meeting that was not started yet, on this date. -/
def smallAfterFourDigits : Meeting :=
  Meeting.new ⟨none, 60000, 10000, Provider.deepgram.settings "de"⟩
    ⟨"standup", "deepgram", .records, false, Text.bytesOf "logs",
      afterFourDigits.atTime .midnight⟩
    (FileTree.empty .epoch) (afterFourDigits.atTime .midnight)

/-- A trace written when years have five digits is not read, nor is one written
by a logger whose name is on two lines. -/
theorem trace_of_greeting_is_silent :
    let late := smallAfterFourDigits.start.1.performAll greeting
    let ended := small.start.1.performAll greeting
    (∀ move ∈ greeting, move.IsLegible) ∧
      (smallAfterFourDigits.start = (smallAfterFourDigits.start.1, .ok ()) ∧
        smallAfterFourDigits.start.1.takesAll greeting = true ∧
        smallAfterFourDigits.store.options.IsOneLine ∧
        (late.records.filter CoreRecord.isAttendance).length = 2 ∧
        readAll defaultLogger (String.ofList
          (write defaultLogger .info late.trace)) = []) ∧
      small.start = (small.start.1, .ok ()) ∧
        small.start.1.takesAll greeting = true ∧
        small.store.options.IsOneLine ∧
        (ended.records.filter CoreRecord.isAttendance).length = 2 ∧
        readAll "two\nlines" (String.ofList
          (write "two\nlines" .info ended.trace)) = [] := by
  refine ⟨isLegible_greeting,
    ⟨Prod.ext rfl (by decide +kernel), by decide +kernel,
      ⟨by decide, by decide⟩, by decide +kernel, ?_⟩,
    small_starts, by decide +kernel, ⟨by decide, by decide⟩,
    by decide +kernel, ?_⟩
  · rw [readAll_ofList]
    decide +kernel
  · rw [readAll_ofList]
    decide +kernel

end MeetingLog.Meeting
