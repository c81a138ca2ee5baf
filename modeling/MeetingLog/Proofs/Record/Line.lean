import MeetingLog.Record.Line
import MeetingLog.Proofs.Calendar.Clock
import MeetingLog.Proofs.Json.Tagged

/-!
# Record lines read back

A record whose time has no fraction of a second is read back from its line.
-/

namespace MeetingLog

open MeetingLog.Calendar
open MeetingLog.Json
open MeetingLog.Text

theorem timeOf?_timeValue {time : ClockTime} (whole : time.IsWhole) :
    timeOf? (timeValue time) = some time := by
  rw [timeOf?, timeValue, Value.text?, Option.bind_some, ClockTime.write,
    String.toList_ofList, ClockTime.read?_letters,
    ClockTime.wholeSecond_eq whole]

theorem kindOf?_name (kind : LifecycleKind) :
    kindOf? (.text kind.name) = some kind := by
  rw [kindOf?, LifecycleKind.ofName?_name]

namespace Record

/-- The fields of a record are read back. -/
theorem ofBody?_members {record : Record} (whole : record.time.IsWhole) :
    ofBody? record.type (.members record.members) = some record := by
  cases record with
  | header entry =>
      have time : timeOf? (timeValue entry.startedAt) = some entry.startedAt :=
        timeOf?_timeValue whole
      simp [type, members, ofBody?, Header.ofBody?, Header.members, Body.fits,
        Body.required?, Body.lookup, Value.text?, time]
  | footer entry =>
      have time : timeOf? (timeValue entry.endedAt) = some entry.endedAt :=
        timeOf?_timeValue whole
      simp [type, members, ofBody?, Footer.ofBody?, Footer.members, Body.fits,
        Body.required?, Body.lookup, time]
  | core entry =>
      cases entry with
      | lifecycle entry =>
          have time : timeOf? (timeValue entry.time) = some entry.time :=
            timeOf?_timeValue whole
          simp [type, members, ofBody?, Lifecycle.ofBody?, Lifecycle.members,
            Body.fits, Body.required?, Body.lookup, Value.text?, time,
            kindOf?_name]
      | transcript entry =>
          have time : timeOf? (timeValue entry.time) = some entry.time :=
            timeOf?_timeValue whole
          simp [type, members, ofBody?, Transcript.ofBody?,
            Transcript.members, Body.fits, Body.required?, Body.lookup,
            Value.text?, Value.natural?, time]

theorem members_names (record : Record) :
    ∀ member ∈ record.members, member.1 ≠ "type" := by
  rcases record with (entry | entry | (entry | entry))
  all_goals
    intro member found
    simp only [members, Header.members, Footer.members, Lifecycle.members,
      Transcript.members, List.mem_cons, List.not_mem_nil, or_false] at found
  · rcases found with (rfl | rfl | rfl) <;> simp
  · obtain rfl := found
    simp
  · rcases found with (rfl | rfl | rfl) <;> simp
  · rcases found with (rfl | rfl | rfl | rfl) <;> simp

theorem members_scalar (record : Record) :
    ∀ member ∈ record.members, member.2.IsScalar := by
  rcases record with (entry | entry | (entry | entry))
  all_goals
    intro member found
    simp only [members, Header.members, Footer.members, Lifecycle.members,
      Transcript.members, List.mem_cons, List.not_mem_nil, or_false] at found
  · rcases found with (rfl | rfl | rfl) <;> trivial
  · obtain rfl := found
    trivial
  · rcases found with (rfl | rfl | rfl) <;> trivial
  · rcases found with (rfl | rfl | rfl | rfl) <;> trivial

theorem readLetters_lineLetters {record : Record}
    (whole : record.time.IsWhole) :
    readLetters record.lineLetters = .ok record :=
  decodeTagged_writeValue isSpaced_recordStyle
    (RecordType.ofName?_name record.type) (members_names record)
    (fun member found => .scalar (members_scalar record member found))
    (ofBody?_members whole)

end Record

/-! ## Times that were read -/

theorem isWhole_timeOf? {value : Value} {time : ClockTime}
    (found : timeOf? value = some time) : time.IsWhole := by
  rw [timeOf?, Option.bind_eq_some_iff] at found
  obtain ⟨text, -, read⟩ := found
  exact ClockTime.isWhole_read? read

namespace Record

/-- The fields of a body never give a time with a fraction. -/
theorem isWhole_ofBody? {type : RecordType} {body : Body} {record : Record}
    (found : ofBody? type body = some record) : record.time.IsWhole := by
  cases type with
  | header =>
      obtain ⟨entry, fields, rfl⟩ := Option.map_eq_some_iff.1 found
      unfold Header.ofBody? at fields
      split at fields
      · cases fields
      simp only [Option.bind_eq_bind, Option.bind_eq_some_iff] at fields
      obtain ⟨_, _, _, _, _, _, time, read, _, _, _, _, equality⟩ := fields
      obtain rfl := Option.some.inj equality
      exact isWhole_timeOf? read
  | footer =>
      obtain ⟨entry, fields, rfl⟩ := Option.map_eq_some_iff.1 found
      unfold Footer.ofBody? at fields
      split at fields
      · cases fields
      simp only [Option.bind_eq_bind, Option.bind_eq_some_iff] at fields
      obtain ⟨_, _, time, read, equality⟩ := fields
      obtain rfl := Option.some.inj equality
      exact isWhole_timeOf? read
  | event =>
      obtain ⟨entry, fields, rfl⟩ := Option.map_eq_some_iff.1 found
      unfold Lifecycle.ofBody? at fields
      split at fields
      · cases fields
      simp only [Option.bind_eq_bind, Option.bind_eq_some_iff] at fields
      obtain ⟨_, _, time, read, _, _, _, _, _, _, _, _, equality⟩ := fields
      obtain rfl := Option.some.inj equality
      exact isWhole_timeOf? read
  | transcript =>
      obtain ⟨entry, fields, rfl⟩ := Option.map_eq_some_iff.1 found
      unfold Transcript.ofBody? at fields
      split at fields
      · cases fields
      simp only [Option.bind_eq_bind, Option.bind_eq_some_iff] at fields
      obtain ⟨_, _, time, read, _, _, _, _, _, _, _, _, _, _, _, _,
        equality⟩ := fields
      obtain rfl := Option.some.inj equality
      exact isWhole_timeOf? read

/-- A record that was read from a line has a time without fraction. -/
theorem isWhole_readLetters {letters : List Char} {record : Record}
    (found : readLetters letters = .ok record) : record.time.IsWhole := by
  obtain ⟨⟨other, rest⟩, decoded, finished⟩ := ok_of_bind found
  obtain ⟨⟨⟨tag, body⟩, left⟩, -, fields⟩ := ok_of_bind decoded
  have same : other = record := by
    simp only at finished
    split at finished
    · exact Except.ok.inj finished
    · cases finished
  rw [← same]
  simp only at fields
  split at fields
  · cases fields
  · next result present =>
      obtain ⟨rfl, -⟩ := Prod.mk.inj (Except.ok.inj fields)
      exact isWhole_ofBody? present

/-! ## Fractions -/

theorem line_header_wholeSecond (header : Header) :
    (Record.header { header with
      startedAt := header.startedAt.wholeSecond }).line =
      (Record.header header).line := by
  have value : (Record.header { header with
      startedAt := header.startedAt.wholeSecond }).toValue =
      (Record.header header).toValue := rfl
  rw [line, lineLetters, value, line, lineLetters]

theorem line_footer_wholeSecond (time : ClockTime) :
    (Record.footer ⟨time.wholeSecond⟩).line = (Record.footer ⟨time⟩).line := by
  have value : (Record.footer ⟨time.wholeSecond⟩).toValue =
      (Record.footer ⟨time⟩).toValue := rfl
  rw [line, lineLetters, value, line, lineLetters]

end Record

end MeetingLog
