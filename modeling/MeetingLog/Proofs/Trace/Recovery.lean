import MeetingLog.Trace.Recovery
import MeetingLog.Proofs.Calendar.Clock

/-!
# Times of recovered records

A record read from the trace has a time without fraction, and so has the moment
at which it was noted. A lifecycle record has the time at which it was noted.
-/

namespace MeetingLog.Trace

open MeetingLog.Calendar

theorem isWhole_readClock? {text rest : List Char} {time : ClockTime}
    (found : readClock? text = some (time, rest)) : time.IsWhole := by
  unfold readClock? at found
  simp only [Option.bind_eq_bind, Option.bind_eq_some_iff, Prod.exists]
    at found
  obtain ⟨_, _, _, _, _, _, _, _, _, _, _, _, _, last, parts, equality⟩ :=
    found
  obtain ⟨rfl, -⟩ := Prod.mk.inj (Option.some.inj equality)
  exact ClockTime.isWhole_ofParts? parts

theorem isWhole_readNote? {logger : String} {line message : List Char}
    {moment : Moment} (found : readNote? logger line = some (moment, message)) :
    moment.time.IsWhole := by
  unfold readNote? at found
  simp only [Option.bind_eq_bind, Option.bind_eq_some_iff, Prod.exists]
    at found
  obtain ⟨date, _, _, _, _, time, _, clock, _, _, _, _, _, _, _, _, _, _, _, _,
    _, _, equality⟩ := found
  obtain ⟨rfl, -⟩ := Prod.mk.inj (Option.some.inj equality)
  exact isWhole_readClock? clock

theorem isWhole_readSpoken? {message : List Char} {transcript : Transcript}
    (found : readSpoken? message = some transcript) :
    transcript.time.IsWhole := by
  unfold readSpoken? at found
  simp only [Option.bind_eq_bind, Option.bind_eq_some_iff, Prod.exists]
    at found
  obtain ⟨_, _, time, _, clock, _, _, _, _, equality⟩ := found
  split at equality
  · cases equality
  split at equality
  · cases equality
  obtain rfl := Option.some.inj equality
  exact isWhole_readClock? clock

theorem readPresence?_time {time : ClockTime} {message : List Char}
    {lifecycle : Lifecycle}
    (found : readPresence? time message = some lifecycle) :
    lifecycle.time = time := by
  unfold readPresence? at found
  split at found
  · obtain ⟨participant, -, rfl⟩ := Option.map_eq_some_iff.1 found
    rfl
  · split at found
    · obtain ⟨participant, -, rfl⟩ := Option.map_eq_some_iff.1 found
      rfl
    · cases found

/-- What is known of the times of an entry that was read from a trace line. -/
structure Recovered.IsTimed (entry : Recovered) : Prop where
  logged : entry.loggedAt.time.IsWhole
  record : entry.record.time.IsWhole
  presence : ∀ lifecycle, entry.record = .lifecycle lifecycle →
    lifecycle.time = entry.loggedAt.time

theorem isTimed_readLine? {logger : String} {line : List Char}
    {entry : Recovered} (found : readLine? logger line = some entry) :
    entry.IsTimed := by
  unfold readLine? at found
  simp only [Option.bind_eq_bind, Option.bind_eq_some_iff, Prod.exists]
    at found
  obtain ⟨moment, message, note, equality⟩ := found
  have logged := isWhole_readNote? note
  split at equality
  · next transcript spoken =>
      obtain rfl := Option.some.inj equality
      exact ⟨logged, isWhole_readSpoken? spoken, nofun⟩
  · obtain ⟨lifecycle, presence, same⟩ :=
      Option.bind_eq_some_iff.1 equality
    obtain rfl := Option.some.inj same
    have time := readPresence?_time presence
    refine ⟨logged, ?_, ?_⟩
    · show lifecycle.time.IsWhole
      rw [time]
      exact logged
    · rintro other ⟨⟩
      exact time

/-- Of the lifecycle records only those about joining and leaving are read from
a message. -/
theorem readPresence?_kind {time : ClockTime} {message : List Char}
    {lifecycle : Lifecycle}
    (found : readPresence? time message = some lifecycle) :
    lifecycle.kind = .joined ∨ lifecycle.kind = .left := by
  unfold readPresence? at found
  split at found
  · obtain ⟨participant, -, rfl⟩ := Option.map_eq_some_iff.1 found
    exact .inl rfl
  · split at found
    · obtain ⟨participant, -, rfl⟩ := Option.map_eq_some_iff.1 found
      exact .inr rfl
    · cases found

theorem kind_readLine? {logger : String} {line : List Char}
    {entry : Recovered} (found : readLine? logger line = some entry)
    {lifecycle : Lifecycle} (equality : entry.record = .lifecycle lifecycle) :
    lifecycle.kind = .joined ∨ lifecycle.kind = .left := by
  unfold readLine? at found
  simp only [Option.bind_eq_bind, Option.bind_eq_some_iff, Prod.exists]
    at found
  obtain ⟨moment, message, -, reading⟩ := found
  split at reading
  · obtain rfl := Option.some.inj reading
    cases equality
  · obtain ⟨other, presence, same⟩ := Option.bind_eq_some_iff.1 reading
    obtain rfl := Option.some.inj same
    obtain rfl := CoreRecord.lifecycle.inj equality
    exact readPresence?_kind presence

theorem kind_readAll {logger trace : String} {entry : Recovered}
    (member : entry ∈ readAll logger trace) {lifecycle : Lifecycle}
    (equality : entry.record = .lifecycle lifecycle) :
    lifecycle.kind = .joined ∨ lifecycle.kind = .left := by
  obtain ⟨line, -, found⟩ := List.mem_filterMap.1 member
  exact kind_readLine? found equality

theorem isTimed_readAll {logger trace : String} {entry : Recovered}
    (member : entry ∈ readAll logger trace) : entry.IsTimed := by
  obtain ⟨line, -, found⟩ := List.mem_filterMap.1 member
  exact isTimed_readLine? found

end MeetingLog.Trace
