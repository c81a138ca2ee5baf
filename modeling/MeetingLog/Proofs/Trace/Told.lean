import MeetingLog.Repair.Signature
import MeetingLog.Proofs.Trace.Message

/-!
# Records that the trace tells of

Whoever joins, leaves or speaks is noted in the trace when the record is taken.
From this entry a record with the same signature is read back. Pauses and their
ends have notes that tell of no record.
-/

namespace MeetingLog

open MeetingLog.Text
open MeetingLog.Trace

/-- `isAttendance record` means that the record is about somebody who joined,
left or spoke. -/
def CoreRecord.isAttendance : CoreRecord → Bool
  | .transcript _ => true
  | .lifecycle entry =>
      match entry.kind with
      | .joined => true
      | .left => true
      | .paused => false
      | .resumed => false

def CoreRecord.note? : CoreRecord → Option Note
  | .transcript entry => some (Note.info (spokenMessage entry))
  | .lifecycle entry =>
      match entry.kind with
      | .joined => some (Note.info (connectedMessage entry.participant))
      | .left => some (Note.info (disconnectedMessage entry.participant))
      | .paused => none
      | .resumed => none

/-- `record.IsLegible` means that the record can be told from its note: the
participant has a name and the text, which ends visibly, is plain and has the
number of words that the record says. -/
structure CoreRecord.IsLegible (record : CoreRecord) : Prop where
  name : IsName record.participant
  text : ∀ spoken, record = .transcript spoken →
    IsPlain spoken.text ∧ EndsVisibly spoken.text.toList
  counted : ∀ spoken, record = .transcript spoken →
    spoken.wordCount = UInt64.ofNat (wordCount spoken.text)

/-- `record.IsToldBy entry` means that the entry is the note of the record, and
was made in the second that the record has for its time. -/
structure CoreRecord.IsToldBy (record : CoreRecord) (entry : Entry) : Prop where
  note : record.note? = some entry.note
  time : record.time = entry.time.time.wholeSecond

/-- `IsLike other record` means that two records tell of the same thing, and
that what could have been noted a second later is the same, too. -/
structure CoreRecord.IsLike (other record : CoreRecord) : Prop where
  signature : Signature.ofRecord other = Signature.ofRecord record
  earlier : Signature.ofPreviousSecond? other =
    Signature.ofPreviousSecond? record

/-- The record with every run of blank characters in its text replaced by one
space. -/
def CoreRecord.collapsed : CoreRecord → CoreRecord
  | .transcript entry => .transcript { entry with text := collapse entry.text }
  | .lifecycle entry => .lifecycle entry

theorem CoreRecord.isLike_collapsed (record : CoreRecord) :
    record.collapsed.IsLike record := by
  cases record with
  | transcript entry =>
      refine ⟨?_, rfl⟩
      simp only [collapsed, Signature.ofRecord, squeeze_collapse]
  | lifecycle entry => exact ⟨rfl, rfl⟩

variable {record : CoreRecord} {entry : Entry}

/-- A legible record is read back, its blanks collapsed, from the entry that
tells of it. -/
theorem CoreRecord.IsToldBy.recovered?_eq (told : record.IsToldBy entry)
    (legible : record.IsLegible) :
    entry.recovered? = some ⟨entry.time.wholeSecond, record.collapsed⟩ := by
  obtain ⟨moment, note⟩ := entry
  obtain ⟨noted, time⟩ := told
  cases record with
  | transcript spoken =>
      obtain ⟨stamp, participant, text, count⟩ := spoken
      obtain ⟨plain, ends⟩ := legible.text _ rfl
      obtain rfl : count = UInt64.ofNat (wordCount text) :=
        legible.counted _ rfl
      obtain rfl := Option.some.inj noted
      obtain rfl : stamp = moment.time.wholeSecond := time
      exact recovered?_spoken legible.name plain ends moment
  | lifecycle entry =>
      obtain ⟨stamp, participant, kind⟩ := entry
      obtain rfl : stamp = moment.time.wholeSecond := time
      have name : IsName participant := legible.name
      cases kind with
      | joined =>
          obtain rfl := Option.some.inj noted
          exact recovered?_connected name moment
      | left =>
          obtain rfl := Option.some.inj noted
          exact recovered?_disconnected name moment
      | paused | resumed => cases noted

/-- An entry that tells of a legible record is about somebody who joined, left
or spoke. -/
theorem CoreRecord.isAttendance_of_note? {note : Note}
    (noted : record.note? = some note) : record.isAttendance = true := by
  cases record with
  | transcript entry => rfl
  | lifecycle entry =>
      obtain ⟨stamp, participant, kind⟩ := entry
      cases kind with
      | joined | left => rfl
      | paused | resumed => cases noted

theorem filterMap_recovered?_of_asides {notes : List Note}
    (asides : ∀ note ∈ notes, note.IsAside) (time : Calendar.Moment) :
    (notes.map (Entry.mk time)).filterMap Entry.recovered? = [] := by
  rw [List.filterMap_map, List.filterMap_eq_nil_iff]
  exact fun note member => (asides note member).silent time

theorem CoreRecord.IsToldBy.oneLine (told : record.IsToldBy entry)
    (legible : record.IsLegible) : IsOneLine entry.note.message := by
  obtain ⟨moment, note⟩ := entry
  obtain ⟨noted, -⟩ := told
  cases record with
  | transcript spoken =>
      obtain ⟨plain, -⟩ := legible.text _ rfl
      obtain rfl := Option.some.inj noted
      exact (isPlain_spokenMessage legible.name plain).isOneLine
  | lifecycle entry =>
      obtain ⟨stamp, participant, kind⟩ := entry
      have name : IsName participant := legible.name
      have connected : IsOneLine "Participant connected: " := by
        decide +kernel
      have disconnected : IsOneLine "Participant disconnected: " := by
        decide +kernel
      cases kind with
      | joined =>
          obtain rfl := Option.some.inj noted
          exact connected.append name.plain.isOneLine
      | left =>
          obtain rfl := Option.some.inj noted
          exact disconnected.append name.plain.isOneLine
      | paused | resumed => cases noted

end MeetingLog
