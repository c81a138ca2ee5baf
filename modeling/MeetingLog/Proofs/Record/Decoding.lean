import MeetingLog.Proofs.Record.Recording

/-!
# Record lines decode to what they write

A line is ASCII without any control character, and the record that it writes is
read back from it. A record that was read, from whatever text, has no fraction
of a second, so that writing it and reading it again changes nothing. Lines
joined by line feeds are read as one recording.
-/

namespace MeetingLog

open MeetingLog.Calendar
open MeetingLog.Json

/-- Lines joined by line feeds are the lines of all records but the last, and
the last line without a line feed behind it. -/
theorem intercalate_lines (front : List Record) (last : Record) :
    String.intercalate "\n" ((front ++ [last]).map Record.line) =
      recordText front ++ last.line := by
  induction front with
  | nil =>
      rw [List.nil_append, List.map_singleton, String.intercalate_singleton]
      exact String.empty_append.symm
  | cons record others inductionHypothesis =>
      have notEmpty : (others ++ [last]).map Record.line ≠ [] := by
        simp
      rw [List.cons_append, List.map_cons,
        String.intercalate_cons_of_ne_nil notEmpty, inductionHypothesis,
        recordText_cons]
      simp only [String.append_assoc]

namespace Record

theorem read_line {record : Record} (whole : record.time.IsWhole) :
    read record.line = .ok record := by
  rw [read, line, String.toList_ofList]
  exact readLetters_lineLetters whole

theorem isPlainAscii_line (record : Record) :
    ∀ c ∈ record.line.toList, IsPlainAscii c := by
  rw [line, String.toList_ofList]
  exact record.isPlainAscii_lineLetters

end Record

/-- The last of some joined lines has no line feed behind it, and is read all
the same. -/
theorem Recording.recordsOf_intercalate {records : List Record}
    (whole : ∀ record ∈ records, record.time.IsWhole) :
    recordsOf
        (String.intercalate "\n" (records.map Record.line)).toList =
      records := by
  cases records using List.reverseRecOn with
  | nil => rfl
  | append_singleton front last =>
      rw [List.forall_mem_append, List.forall_mem_singleton] at whole
      have alone : recordsOf last.line.toList = [last] := by
        rw [Record.line, String.toList_ofList,
          recordsOf_of_noFeed last.feed_not_mem_lineLetters,
          recordOf?_lineLetters whole.2]
        rfl
      rw [intercalate_lines, String.toList_append, recordsOf_append whole.1,
        alone]

/-- Every record without a fraction of a second is written in ASCII on one line
and read back from it, every record that was read is read back from its own
line, and joined lines are read as their core records in order with the last
header and the last footer. -/
theorem record_lines_decode :
    (∀ record : Record, record.time.IsWhole →
      (∀ c ∈ record.line.toList, IsPlainAscii c) ∧
        Record.read record.line = .ok record) ∧
    (∀ (text : String) (record : Record), Record.read text = .ok record →
      Record.read record.line = .ok record) ∧
    ∀ records : List Record, (∀ record ∈ records, record.time.IsWhole) →
      Recording.read (String.intercalate "\n" (records.map Record.line)) =
        { header := (records.filterMap Record.header?).getLast?
          footer := (records.filterMap Record.footer?).getLast?
          core := records.filterMap Record.core? } := by
  refine ⟨fun record whole => ?_, fun text record found => ?_,
    fun records whole => ?_⟩
  · exact ⟨record.isPlainAscii_line, Record.read_line whole⟩
  · exact Record.read_line (Record.isWhole_readLetters found)
  · rw [Recording.read, Recording.recordsOf_intercalate whole,
      Recording.ofRecords_eq]

/-- An utterance in a leap second with quotes, an escape, control characters,
a line separator and a character beyond sixteen bits. -/
def awkward : Transcript :=
  ⟨{ ClockTime.endOfDay with second := Fin.last 60 }, "Zoë \"Z\"",
    "a\\b\n\x01\u2028😀", 18446744073709551615⟩

/-- The header that `renamedText` writes. -/
def renamed : Header :=
  ⟨"Küche", .midnight, "local"⟩

/-- A header line as nobody writes it: the room goes by its other name, an
unknown member stands between, the type comes last and the numbers of the time
have one digit. -/
def renamedText : String :=
  "\x7b\"session_id\":\"K\\u00fcche\", \"more\":[null],\"started_at\" :" ++
    "\"0:0:0\",\"stt_provider\":\"local\",\"type\":\"header\"\x7d"

theorem record_lines_decode_of_awkward :
    Record.read (Record.core (.transcript awkward)).line =
        .ok (.core (.transcript awkward)) ∧
      Record.read (Record.header renamed).line = .ok (.header renamed) ∧
      Recording.read (String.intercalate "\n"
          ([.core (.transcript awkward), .header renamed].map Record.line)) =
        ⟨some renamed, none, [.transcript awkward]⟩ :=
  ⟨(record_lines_decode.1 _ (by decide)).2,
    record_lines_decode.2.1 renamedText _ (by decide +kernel),
    record_lines_decode.2.2 _ (by decide)⟩

end MeetingLog
