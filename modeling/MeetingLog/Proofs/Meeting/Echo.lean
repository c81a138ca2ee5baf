import MeetingLog.Proofs.Meeting.Asides
import MeetingLog.Proofs.Meeting.Attendance
import MeetingLog.Proofs.Meeting.Names
import MeetingLog.Proofs.Meeting.Stamps

/-!
# The trace beside the records

A meeting notes what it records. For every record about somebody who joined,
left or spoke the trace has an entry that tells of it, made in the second that
the record has for its time; and an entry that tells of no record is an aside.
-/

namespace MeetingLog.Meeting

open MeetingLog.Calendar
open MeetingLog.Files
open MeetingLog.Text
open MeetingLog.Trace

variable {meeting after : Meeting} {storeOptions : StoreOptions}

/-! ## One move -/

/-- `Echoes meeting after records notes` means that `after` is what a meeting is
like once it has taken the records and noted the notes, which echo each
other. -/
structure Echoes (meeting after : Meeting) (records : List CoreRecord)
    (notes : List Note) : Prop where
  began : after.began = meeting.began
  elapsed : meeting.elapsed ≤ after.elapsed
  records_eq : after.records = meeting.records ++ records
  trace_eq : after.trace = meeting.trace ++ notes.map (Entry.mk meeting.now)
  stamped : ∀ record ∈ records, record.time = meeting.clock
  told : ∀ record ∈ records, record.isAttendance = true →
    record.IsLegible ∧ ∃ note ∈ notes, record.note? = some note
  telling : ∀ note ∈ notes, note.IsAside ∨
    ∃ record ∈ records, record.IsLegible ∧ record.note? = some note
  retold : (notes.map (Entry.mk meeting.now)).filterMap Entry.recovered? =
    (records.filter CoreRecord.isAttendance).map fun record =>
      ⟨meeting.now.wholeSecond, record.collapsed⟩
  store :
    Store.Takes meeting.store meeting.files records after.store after.files ∨
      records = [] ∧
        after.store = (meeting.store.finalize meeting.files
          meeting.now.wholeSecond).store ∧
        after.files = (meeting.store.finalize meeting.files
          meeting.now.wholeSecond).files

/-- Nothing is recorded about somebody who joined, left or spoke, and nothing
is noted but asides. -/
theorem Echoes.asides {records : List CoreRecord} {notes : List Note}
    (began : after.began = meeting.began)
    (elapsed : meeting.elapsed ≤ after.elapsed)
    (records_eq : after.records = meeting.records ++ records)
    (trace_eq :
      after.trace = meeting.trace ++ notes.map (Entry.mk meeting.now))
    (stamped : ∀ record ∈ records, record.time = meeting.clock)
    (silent : ∀ record ∈ records, record.isAttendance = false)
    (taken :
      Store.Takes meeting.store meeting.files records after.store after.files)
    (asides : ∀ note ∈ notes, note.IsAside) :
    Echoes meeting after records notes := by
  have none : records.filter CoreRecord.isAttendance = [] :=
    List.filter_eq_nil_iff.2 fun record member =>
      Bool.eq_false_iff.1 (silent record member)
  refine ⟨began, elapsed, records_eq, trace_eq, stamped,
    fun record member attendance => ?_, fun note member =>
      .inl (asides note member), ?_, .inl taken⟩
  · rw [silent record member] at attendance
    cases attendance
  · rw [none]
    exact filterMap_recovered?_of_asides asides _

/-- Nothing is recorded, and nothing is noted but asides. -/
theorem Echoes.noted {notes : List Note}
    (began : after.began = meeting.began)
    (elapsed : meeting.elapsed ≤ after.elapsed)
    (records_eq : after.records = meeting.records)
    (trace_eq :
      after.trace = meeting.trace ++ notes.map (Entry.mk meeting.now))
    (store_eq : after.store = meeting.store)
    (files_eq : after.files = meeting.files)
    (asides : ∀ note ∈ notes, note.IsAside) :
    Echoes meeting after [] notes := by
  refine .asides began elapsed ?_ trace_eq nofun nofun ?_ asides
  · rw [records_eq, List.append_nil]
  · rw [store_eq, files_eq]
    exact .nothing _ _

/-- One record about somebody who joined, left or spoke is taken, and its note
is the last that is noted; the others are asides. -/
theorem Echoes.single {record : CoreRecord} {note : Note} {notes : List Note}
    (began : after.began = meeting.began)
    (elapsed : meeting.elapsed ≤ after.elapsed)
    (records_eq : after.records = meeting.records ++ [record])
    (trace_eq : after.trace =
      meeting.trace ++ (notes ++ [note]).map (Entry.mk meeting.now))
    (stamped : record.time = meeting.clock) (legible : record.IsLegible)
    (noted : record.note? = some note)
    (taken : Store.Takes meeting.store meeting.files [record] after.store
      after.files)
    (asides : ∀ other ∈ notes, other.IsAside) :
    Echoes meeting after [record] (notes ++ [note]) := by
  refine ⟨began, elapsed, records_eq, trace_eq,
    List.forall_mem_singleton.2 stamped,
    List.forall_mem_singleton.2 fun _ => ⟨legible, note, by simp, noted⟩,
    fun other member => ?_, ?_, .inl taken⟩
  · rcases List.mem_append.1 member with (aside | own)
    · exact .inl (asides other aside)
    · obtain rfl := List.mem_singleton.1 own
      exact .inr ⟨record, List.mem_singleton_self record, legible, noted⟩
  · have told : record.IsToldBy ⟨meeting.now, note⟩ := ⟨noted, stamped⟩
    have own : [Entry.mk meeting.now note].filterMap Entry.recovered? =
        [⟨meeting.now.wholeSecond, record.collapsed⟩] := by
      rw [List.filterMap_cons, told.recovered?_eq legible]
      rfl
    rw [List.map_append, List.filterMap_append,
      filterMap_recovered?_of_asides asides, List.filter_cons_of_pos
        (CoreRecord.isAttendance_of_note? noted)]
    exact own

theorem isLegible_lifecycle {identity : String} (name : IsName identity)
    (time : ClockTime) (kind : LifecycleKind) :
    (CoreRecord.lifecycle ⟨time, identity, kind⟩).IsLegible :=
  ⟨name, nofun, nofun⟩

theorem isLegible_spoken {identity text : String} (name : IsName identity)
    (plain : IsPlain text) {time : ClockTime} {transcript : Transcript}
    (said : Transcript.ofUtterance? time identity text = some transcript) :
    (CoreRecord.transcript transcript).IsLegible ∧ transcript.time = time := by
  rw [Transcript.ofUtterance?] at said
  split at said
  · cases said
  · next notEmpty =>
      obtain rfl := Option.some.inj said
      refine ⟨⟨name, fun spoken equality => ?_, fun spoken equality => ?_⟩,
        rfl⟩
      · obtain rfl := CoreRecord.transcript.inj equality
        refine ⟨fun c member => plain c ?_, endsVisibly_trim text notEmpty⟩
        have inTrimmed : c ∈ (trim text).toList := member
        rw [trim, String.toList_ofList] at inTrimmed
        exact mem_trimLetters inTrimmed
      · obtain rfl := CoreRecord.transcript.inj equality
        rfl

theorem isAside_strangerEntries {identity : String} (name : IsName identity)
    (meeting : Meeting) :
    ∃ notes : List Note, (∀ note ∈ notes, note.IsAside) ∧
      meeting.strangerEntries identity = notes.map (Entry.mk meeting.now) := by
  rw [strangerEntries]
  split
  · exact ⟨[_], List.forall_mem_singleton.2 (isAside_strangerNote name), rfl⟩
  · exact ⟨[], nofun, rfl⟩

theorem Outcome.echoes {move : Move} (names : meeting.HasNames)
    (keyed : meeting.IsKeyed) (oneLine : meeting.store.options.IsOneLine)
    (legible : move.IsLegible) (outcome : Outcome meeting move after) :
    ∃ records notes, Echoes meeting after records notes := by
  have one {note : Note} (aside : note.IsAside) :
      ∀ other ∈ [note], other.IsAside :=
    List.forall_mem_singleton.2 aside
  have two {note noteToo : Note} (aside : note.IsAside)
      (asideToo : noteToo.IsAside) :
      ∀ other ∈ [note] ++ [noteToo], other.IsAside :=
    List.forall_mem_append.2 ⟨one aside, one asideToo⟩
  have atOnce : meeting.elapsed ≤ meeting.elapsed := Nat.le_refl _
  cases outcome with
  | nothing | closingBegun | closingDone | waited | collected =>
      exact ⟨[], [], .noted rfl atOnce rfl (List.append_nil _).symm rfl rfl
        nofun⟩
  | ticked milliseconds =>
      exact ⟨[], [], .noted rfl (Nat.le_add_right _ _) rfl
        (List.append_nil _).symm rfl rfl nofun⟩
  | @dropped event text isClosed =>
      exact ⟨[], [Note.debug text], .noted rfl atOnce rfl rfl rfl rfl
        (one (isAside_debug text))⟩
  | @joinedAgain _ _ text _ _ _ =>
      exact ⟨[], [Note.debug text], .noted rfl atOnce rfl rfl rfl rfl
        (one (isAside_debug text))⟩
  | @leftUnknown _ _ text _ _ =>
      exact ⟨[], [Note.debug text], .noted rfl atOnce rfl rfl rfl rfl
        (one (isAside_debug text))⟩
  | @blank _ _ _ text _ _ =>
      exact ⟨[], [Note.debug text], .noted rfl atOnce rfl rfl rfl rfl
        (one (isAside_debug text))⟩
  | @joined _ identity name store files hears absent takes =>
      exact ⟨[_], [] ++ [Note.info (connectedMessage identity)],
        .single rfl atOnce rfl rfl rfl
          (isLegible_lifecycle (hears.isLegible legible) meeting.clock .joined)
          rfl takes nofun⟩
  | @left _ identity participant store files hears found takes =>
      exact ⟨[_], [] ++ [Note.info (disconnectedMessage identity)],
        .single rfl atOnce rfl rfl rfl
          (isLegible_lifecycle (hears.isLegible legible) meeting.clock .left)
          rfl takes nofun⟩
  | @trackUnknown _ identity text hears absent =>
      have name : IsName identity := hears.isLegible legible
      exact ⟨[], [trackNote identity] ++ [Note.debug text],
        .noted rfl atOnce rfl (List.append_assoc _ _ _) rfl rfl
          (two (isAside_trackNote name) (isAside_debug text))⟩
  | @trackServed _ identity participant hears found served =>
      have name : IsName identity := hears.isLegible legible
      exact ⟨[], [trackNote identity], .noted rfl atOnce rfl rfl rfl rfl
        (one (isAside_trackNote name))⟩
  | @woken _ identity participant store files hears found lacks isPaused takes =>
      have name : IsName identity := hears.isLegible legible
      rw [requestOpenings_eq]
      refine ⟨_, [trackNote identity] ++ [wakingNote],
        .asides rfl atOnce rfl (List.append_assoc _ _ _) ?_
          (fun _ => isAttendance_resumed) takes
          (two (isAside_trackNote name) isAside_wakingNote)⟩
      intro record member
      obtain ⟨other, -, rfl⟩ := List.mem_map.1 member
      rfl
  | @retried _ identity participant hears found lacks isPaused =>
      have name : IsName identity := hears.isLegible legible
      exact ⟨[], [trackNote identity] ++ [retryNote identity],
        .noted rfl atOnce rfl (List.append_assoc _ _ _) rfl rfl
          (two (isAside_trackNote name) (isAside_retryNote name))⟩
  | @spoken _ identity text transcript store files hears said takes =>
      obtain ⟨name, plain⟩ := hears.isLegible legible
      obtain ⟨notes, asides, strangers⟩ :=
        isAside_strangerEntries name meeting
      obtain ⟨readable, time⟩ := isLegible_spoken name plain said
      refine ⟨[.transcript transcript],
        notes ++ [Note.info (spokenMessage transcript)],
        .single rfl atOnce rfl ?_ time readable rfl takes asides⟩
      rw [strangers, List.map_append, List.append_assoc]
      rfl
  | channelClosed =>
      exact ⟨[], [_], .noted rfl atOnce rfl rfl rfl rfl
        (one isAside_channelNote)⟩
  | openingBegun found waiting =>
      exact ⟨[], [_], .noted rfl atOnce rfl rfl rfl rfl
        (one (isAside_openingNote (names.of_opening? found)))⟩
  | openingFailed found begun =>
      exact ⟨[], [_], .noted rfl atOnce rfl rfl rfl rfl
        (one (isAside_openingFailureNote (names.of_opening? found) legible))⟩
  | attached found begun tracked held =>
      exact ⟨[], [_], .noted rfl atOnce rfl rfl rfl rfl
        (one (isAside_attachedNote (names.of_opening? found) legible))⟩
  | discarded | orphaned =>
      exact ⟨[], [_], .noted rfl atOnce rfl rfl rfl rfl
        (one (isAside_debug _))⟩
  | closingFailed member =>
      exact ⟨[], [_], .noted rfl atOnce rfl rfl rfl rfl
        (one (isAside_closingFailureNote (names.closings _ member) legible))⟩
  | @paused _ timeout store files isCheck limit silent takes =>
      refine ⟨_, [pauseNote timeout] ++
          meeting.listeners.map meeting.pausedNote,
        .asides rfl atOnce rfl ?_ ?_ (fun _ => isAttendance_paused) takes
          (List.forall_mem_append.2
            ⟨one (isAside_pauseNote timeout), fun note member => ?_⟩)⟩
      · rw [List.map_append, List.map_map, ← List.append_assoc]
        rfl
      · intro record member
        obtain ⟨participant, -, rfl⟩ := List.mem_map.1 member
        rfl
      · obtain ⟨participant, listens, rfl⟩ := List.mem_map.1 member
        have name : IsName participant.identity :=
          names.of_value keyed (List.mem_of_mem_filter listens)
        exact isAside_pausedNote name meeting
  | checkingStopped =>
      exact ⟨[], [_], .noted rfl atOnce rfl rfl rfl rfl
        (one (isAside_debug _))⟩
  | stopped =>
      exact ⟨[], [_], .noted rfl atOnce rfl rfl rfl rfl
        (one isAside_closingNote)⟩
  | abandoned =>
      exact ⟨[], [_], .noted rfl atOnce rfl rfl rfl rfl
        (one (isAside_graceNote _))⟩
  | @finished failures isCleared =>
      rw [finish_eq]
      let step :=
        meeting.store.finalize meeting.files meeting.now.wholeSecond
      have asides : ∀ note ∈ failureNotes failures ++ step.notes ++
          (if step.result.isOk then [Note.info "Protocol manager closed"]
          else []), note.IsAside := by
        intro note member
        rcases List.mem_append.1 member with (before | closed)
        · rcases List.mem_append.1 before with (failed | saved)
          · exact isAside_failureNotes failures note failed
          · exact isAside_notes_finalize oneLine meeting.files _ note saved
        · split at closed
          · obtain rfl := List.mem_singleton.1 closed
            exact isAside_closedNote
          · exact absurd closed List.not_mem_nil
      exact ⟨[], _, rfl, atOnce, (List.append_nil _).symm, rfl, nofun, nofun,
        fun note member => .inl (asides note member),
        filterMap_recovered?_of_asides asides _, .inr ⟨rfl, rfl, rfl⟩⟩

/-! ## A whole run -/

/-- `meeting.IsEchoed` means that the trace of the meeting tells of its records
about those who joined, left or spoke, and otherwise holds asides. Records and
entries were made while the meeting went on. -/
structure IsEchoed (meeting : Meeting) : Prop where
  stamped : AreStamped meeting.began meeting.elapsed meeting.records
  timed : ∀ entry ∈ meeting.trace, ∃ elapsed ≤ meeting.elapsed,
    entry.time = meeting.began.later elapsed
  told : ∀ record ∈ meeting.records, record.isAttendance = true →
    record.IsLegible ∧ ∃ entry ∈ meeting.trace, record.IsToldBy entry
  telling : ∀ entry ∈ meeting.trace, entry.note.IsAside ∨
    ∃ record ∈ meeting.records, record.IsLegible ∧ record.IsToldBy entry
  retold : (meeting.trace.filterMap Entry.recovered?).map Recovered.record =
    (meeting.records.filter CoreRecord.isAttendance).map CoreRecord.collapsed

theorem Echoes.isToldBy {records : List CoreRecord} {notes : List Note}
    (echoes : Echoes meeting after records notes) {record : CoreRecord}
    (member : record ∈ records) {note : Note}
    (noted : record.note? = some note) :
    record.IsToldBy ⟨meeting.now, note⟩ :=
  ⟨noted, echoes.stamped record member⟩

theorem Echoes.areStamped {records : List CoreRecord} {notes : List Note}
    (echoes : Echoes meeting after records notes)
    (stamped : AreStamped meeting.began meeting.elapsed meeting.records) :
    AreStamped meeting.began meeting.elapsed after.records := by
  rw [echoes.records_eq]
  exact stamped.append echoes.stamped

theorem IsEchoed.step {records : List CoreRecord} {notes : List Note}
    (echoed : meeting.IsEchoed) (echoes : Echoes meeting after records notes) :
    after.IsEchoed := by
  have inTrace {note : Note} (member : note ∈ notes) :
      Entry.mk meeting.now note ∈ after.trace := by
    rw [echoes.trace_eq]
    exact List.mem_append_right _ (List.mem_map_of_mem member)
  constructor
  · rw [echoes.began]
    exact (echoes.areStamped echoed.stamped).wait echoes.elapsed
  · intro entry member
    rw [echoes.trace_eq] at member
    rw [echoes.began]
    rcases List.mem_append.1 member with (before | new)
    · obtain ⟨elapsed, earlier, time⟩ := echoed.timed entry before
      exact ⟨elapsed, Nat.le_trans earlier echoes.elapsed, time⟩
    · obtain ⟨note, -, rfl⟩ := List.mem_map.1 new
      exact ⟨meeting.elapsed, echoes.elapsed, rfl⟩
  · intro record member attendance
    rw [echoes.records_eq] at member
    rcases List.mem_append.1 member with (before | new)
    · obtain ⟨legible, entry, found, told⟩ :=
        echoed.told record before attendance
      refine ⟨legible, entry, ?_, told⟩
      rw [echoes.trace_eq]
      exact List.mem_append_left _ found
    · obtain ⟨legible, note, found, noted⟩ :=
        echoes.told record new attendance
      exact ⟨legible, _, inTrace found, echoes.isToldBy new noted⟩
  · intro entry member
    rw [echoes.trace_eq] at member
    rw [echoes.records_eq]
    rcases List.mem_append.1 member with (before | new)
    · rcases echoed.telling entry before with (aside | told)
      · exact .inl aside
      · obtain ⟨record, found, legible, toldBy⟩ := told
        exact .inr ⟨record, List.mem_append_left _ found, legible, toldBy⟩
    · obtain ⟨note, found, rfl⟩ := List.mem_map.1 new
      rcases echoes.telling note found with (aside | told)
      · exact .inl aside
      · obtain ⟨record, inRecords, legible, noted⟩ := told
        exact .inr ⟨record, List.mem_append_right _ inRecords, legible,
          echoes.isToldBy inRecords noted⟩
  · rw [echoes.trace_eq, echoes.records_eq, List.filterMap_append,
      List.map_append, List.filter_append, List.map_append, echoed.retold,
      echoes.retold, List.map_map]
    rfl

/-- The trace of a meeting is read back as what its entries tell of. -/
theorem IsEchoed.readAll_eq {logger : String} (echoed : meeting.IsEchoed)
    (oneLine : IsOneLine logger)
    (fourDigits : ∀ entry ∈ meeting.trace, entry.time.date.HasFourDigits) :
    readAll logger (String.ofList (write logger .info meeting.trace)) =
      meeting.trace.filterMap Entry.recovered? := by
  refine readAll_write oneLine fourDigits (fun entry member allowed => ?_)
  rcases echoed.telling entry member with (aside | told)
  · exact aside.oneLine allowed
  · obtain ⟨record, -, legible, toldBy⟩ := told
    exact toldBy.oneLine legible

/-- `meeting.IsKept storeOptions` means that the store of the meeting holds its
records and, once it was finalized, that this happened after all of them were
taken. -/
def IsKept (storeOptions : StoreOptions) (meeting : Meeting) : Prop :=
  Store.IsRecording storeOptions meeting.store meeting.files meeting.records ∨
    ∃ ended ≤ meeting.elapsed,
      AreStamped meeting.began ended meeting.records ∧
        Store.IsFinalized storeOptions meeting.store meeting.files
          meeting.records (meeting.began.later ended).wholeSecond

theorem IsKept.options_eq (kept : meeting.IsKept storeOptions) :
    meeting.store.options = storeOptions := by
  rcases kept with recording | ⟨ended, -, -, finalized⟩
  · exact recording.options_eq
  · exact finalized.options_eq

theorem IsKept.step {records : List CoreRecord} {notes : List Note}
    (kept : meeting.IsKept storeOptions)
    (stamped : AreStamped meeting.began meeting.elapsed meeting.records)
    (echoes : Echoes meeting after records notes) :
    after.IsKept storeOptions := by
  rw [IsKept, echoes.began]
  rcases echoes.store with taken | ⟨rfl, store_eq, files_eq⟩
  · rw [echoes.records_eq]
    rcases kept with recording | ⟨ended, earlier, before, finalized⟩
    · exact .inl (recording.takes taken)
    · obtain ⟨rfl, store_eq, files_eq⟩ := finalized.takes_nothing taken
      rw [List.append_nil, store_eq, files_eq]
      exact .inr ⟨ended, Nat.le_trans earlier echoes.elapsed, before,
        finalized⟩
  · have records_eq : after.records = meeting.records := by
      rw [echoes.records_eq, List.append_nil]
    rw [records_eq, store_eq, files_eq]
    rcases kept with recording | ⟨ended, earlier, before, finalized⟩
    · exact .inr ⟨meeting.elapsed, echoes.elapsed, stamped,
        recording.finalize _⟩
    · exact .inr ⟨ended, Nat.le_trans earlier echoes.elapsed, before,
        finalized.finalize _⟩

/-- A run of legible moves is echoed in its trace. -/
theorem performAll_isEchoed {begun : Meeting} (keyed : begun.IsKeyed)
    (names : begun.HasNames) (echoed : begun.IsEchoed)
    (kept : begun.IsKept storeOptions) (oneLine : storeOptions.IsOneLine)
    {moves : List Move} (taken : begun.takesAll moves = true)
    (legible : ∀ move ∈ moves, move.IsLegible) :
    (begun.performAll moves).began = begun.began ∧
      (begun.performAll moves).IsEchoed ∧
        (begun.performAll moves).IsKept storeOptions := by
  have held :
      (begun.performAll moves).HasNames ∧
        (begun.performAll moves).began = begun.began ∧
          (begun.performAll moves).IsEchoed ∧
            (begun.performAll moves).IsKept storeOptions := by
    refine performAll_induction
      (motive := fun _ meeting =>
        meeting.HasNames ∧ meeting.began = begun.began ∧
          meeting.IsEchoed ∧ meeting.IsKept storeOptions)
      keyed ⟨names, rfl, echoed, kept⟩ taken ?_
    rintro done move meeting after member keyed
      ⟨names, began, echoed, kept⟩ outcome
    have readable := legible move member
    have shown : meeting.store.options.IsOneLine := by
      rw [kept.options_eq]
      exact oneLine
    obtain ⟨records, notes, echoes⟩ :=
      outcome.echoes names keyed shown readable
    exact ⟨outcome.hasNames names keyed readable, echoes.began.trans began,
      echoed.step echoes, kept.step echoed.stamped echoes⟩
  exact held.2

/-- What a meeting that has begun notes is echoed, too. -/
theorem start_isEchoed {options : MeetingOptions} {files : FileTree}
    {began : Moment} {begun : Meeting} (oneLine : storeOptions.IsOneLine)
    (started :
      (Meeting.new options storeOptions files began).start =
        (begun, .ok ())) :
    begun.began = began ∧ begun.IsKeyed ∧ begun.HasNames ∧ begun.IsEchoed ∧
      begun.IsKept storeOptions := by
  have recording := start_isRecording started
  obtain ⟨result, rfl⟩ := start_ok started
  have names := hasNames_new options storeOptions files began
  have asides : ∀ note ∈ ((Store.new storeOptions).start files).notes ++
      beginningNotes options, note.IsAside := by
    intro note member
    rcases List.mem_append.1 member with (created | begun)
    · exact isAside_notes_start oneLine files note created
    · exact isAside_beginningNotes options note begun
  refine ⟨rfl, isKeyed_new options storeOptions files began,
    ⟨names.tracked, names.openings, names.leaving, names.closings⟩,
    ⟨.nothing _, fun entry member => ?_, nofun, fun entry member => ?_, ?_⟩,
    .inl recording⟩
  · obtain ⟨note, -, rfl⟩ := List.mem_map.1 member
    exact ⟨0, Nat.le_refl _, rfl⟩
  · obtain ⟨note, found, rfl⟩ := List.mem_map.1 member
    exact .inl (asides note found)
  · exact congrArg (List.map Recovered.record)
      (filterMap_recovered?_of_asides asides _)

end MeetingLog.Meeting
