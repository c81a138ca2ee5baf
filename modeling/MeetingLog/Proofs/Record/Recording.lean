import MeetingLog.Record.Recording
import MeetingLog.Proofs.Json.Ascii
import MeetingLog.Proofs.Record.Line
import MeetingLog.Proofs.Text.Blank
import MeetingLog.Proofs.Text.Cuts
import MeetingLog.Proofs.Text.Lines
import Mathlib.Data.List.Basic

/-!
# Recordings read back

No line of a record holds a line feed, and none begins or ends with a blank
character. The lines of records whose times have no fraction are therefore read
back as these records.
-/

namespace MeetingLog

open MeetingLog.Json
open MeetingLog.Text

/-- The lines of some records. -/
def recordText (records : List Record) : String :=
  String.join (records.map fun record => record.line ++ "\n")

theorem recordText_append (front back : List Record) :
    recordText (front ++ back) = recordText front ++ recordText back := by
  rw [recordText, List.map_append, String.join_append]
  rfl

theorem recordText_cons (record : Record) (others : List Record) :
    recordText (record :: others) =
      record.line ++ "\n" ++ recordText others := by
  rw [recordText, List.map_cons, String.join_cons]
  rfl

@[simp]
theorem recordText_singleton (record : Record) :
    recordText [record] = record.line ++ "\n" := by
  rw [recordText, List.map_singleton, String.join_cons, String.join_nil,
    String.append_empty]

theorem toList_recordText (records : List Record) :
    (recordText records).toList =
      records.flatMap fun record => record.lineLetters ++ ['\n'] := by
  rw [recordText, String.toList_join, List.flatMap_map]
  simp only [String.toList_append, Record.line, String.toList_ofList]
  rfl

/-! ## The characters of a line -/

namespace Record

/-- The letters between the braces of a line. -/
def innerLetters (record : Record) : List Char :=
  writeMember ("type", .text record.type.name) ++
    record.members.flatMap fun member => ',' :: ' ' :: writeMember member

theorem lineLetters_eq (record : Record) :
    record.lineLetters = '{' :: (record.innerLetters ++ ['}']) := by
  rw [lineLetters, toValue, writeValue, writeMembers_cons, innerLetters]
  rfl

/-- A line is written in ASCII, without any control character. -/
theorem isPlainAscii_lineLetters (record : Record) :
    ∀ c ∈ record.lineLetters, IsPlainAscii c := by
  have tag : ∀ c ∈ writeMember ("type", .text record.type.name),
      IsPlainAscii c :=
    isPlainAscii_writeMember trivial
  intro c found
  rw [lineLetters_eq, List.mem_cons, List.mem_append, innerLetters,
    List.mem_append, List.mem_flatMap, List.mem_singleton] at found
  rcases found with (rfl | (inTag | ⟨member, isMember, inMember⟩) | rfl)
  · decide
  · exact tag c inTag
  · rw [List.mem_cons, List.mem_cons] at inMember
    rcases inMember with (rfl | rfl | inMember)
    · decide
    · decide
    · exact isPlainAscii_writeMember (members_scalar record member isMember) c
        inMember
  · decide

theorem feed_not_mem_lineLetters (record : Record) :
    '\n' ∉ record.lineLetters := fun member =>
  not_isPlainAscii_feed (isPlainAscii_lineLetters record _ member)

theorem trimLetters_lineLetters (record : Record) :
    trimLetters record.lineLetters = record.lineLetters := by
  rw [lineLetters_eq]
  exact trimLetters_eq_self (by decide) (by decide)

theorem dropReturn_lineLetters (record : Record) :
    dropReturn record.lineLetters = record.lineLetters := by
  rw [lineLetters_eq, ← List.cons_append]
  exact dropReturn_append_singleton (by decide) _

end Record

namespace Recording

/-- The record that a line writes, if it writes one. -/
def recordOf? (line : List Char) : Option Record :=
  (Record.readLetters (trimLetters line)).toOption

/-- A blank line writes no record, since a record begins with a brace. -/
theorem recordOf?_blank {line : List Char}
    (blank : trimLetters line = []) : recordOf? line = none := by
  rw [recordOf?, blank]
  rfl

theorem recordOf?_lineLetters {record : Record}
    (whole : record.time.IsWhole) :
    recordOf? record.lineLetters = some record := by
  rw [recordOf?, Record.trimLetters_lineLetters,
    Record.readLetters_lineLetters whole]
  rfl

theorem filterMap_numberedLines (first : Nat) (lines : List (List Char)) :
    (numberedLines first lines).filterMap
        (fun entry => (Record.readLetters entry.2).toOption) =
      lines.filterMap recordOf? := by
  induction lines generalizing first with
  | nil => rfl
  | cons line others inductionHypothesis =>
      have rest := inductionHypothesis (first + 1)
      rw [numberedLines]
      by_cases blank : trimLetters line = []
      · rw [if_pos (List.isEmpty_iff.2 blank), rest,
          List.filterMap_cons_none (recordOf?_blank blank)]
      · rw [if_neg (mt List.isEmpty_iff.1 blank), List.filterMap_cons,
          List.filterMap_cons, rest]
        rfl

/-- Every line is read by itself, whatever its number. -/
theorem recordsOf_eq (content : List Char) :
    recordsOf content = (linesOf content).filterMap recordOf? := by
  rw [recordsOf, readLines, List.filterMap_map]
  exact filterMap_numberedLines 1 (linesOf content)

/-- What follows the last line feed is one more line, if it is anything. -/
theorem recordsOf_of_noFeed {rest : List Char} (noFeed : '\n' ∉ rest) :
    recordsOf rest = (recordOf? rest).toList := by
  rw [recordsOf_eq, linesOf, pieces_eq_splitOn,
    List.splitOn_eq_singleton noFeed, linesOfPieces]
  split
  · next empty =>
      obtain rfl := List.isEmpty_iff.1 empty
      rw [recordOf?_blank rfl]
      rfl
  · rw [List.filterMap_cons, List.filterMap_nil]
    cases recordOf? rest <;> rfl

/-- Records whose times have no fraction are read back from their lines, and
what follows the lines is read by itself. -/
theorem recordsOf_append {records : List Record}
    (whole : ∀ record ∈ records, record.time.IsWhole) (rest : List Char) :
    recordsOf ((recordText records).toList ++ rest) =
      records ++ recordsOf rest := by
  rw [toList_recordText]
  induction records with
  | nil => rfl
  | cons record others inductionHypothesis =>
      rw [List.forall_mem_cons] at whole
      have first := recordOf?_lineLetters whole.1
      have later := inductionHypothesis whole.2
      rw [recordsOf_eq] at later ⊢
      rw [List.flatMap_cons, List.append_assoc, List.append_assoc,
        List.singleton_append,
        linesOf_append_feed record.feed_not_mem_lineLetters,
        Record.dropReturn_lineLetters, List.filterMap_cons_some first, later]
      rfl

theorem recordsOf_recordText {records : List Record}
    (whole : ∀ record ∈ records, record.time.IsWhole) :
    recordsOf (recordText records).toList = records := by
  have read := recordsOf_append whole []
  rwa [List.append_nil, recordsOf_of_noFeed List.not_mem_nil,
    recordOf?_blank rfl, Option.toList_none, List.append_nil] at read

/-- The lines of some records are one line for each of them. -/
theorem linesOf_recordText (records : List Record) :
    linesOf (recordText records).toList =
      records.map Record.lineLetters := by
  rw [toList_recordText]
  induction records with
  | nil => rfl
  | cons record others inductionHypothesis =>
      rw [List.flatMap_cons, List.append_assoc, List.singleton_append,
        linesOf_append_feed record.feed_not_mem_lineLetters,
        Record.dropReturn_lineLetters, inductionHypothesis, List.map_cons]

theorem map_numberedLines (records : List Record) (first : Nat) :
    (numberedLines first (records.map Record.lineLetters)).map Prod.snd =
      records.map Record.lineLetters := by
  induction records generalizing first with
  | nil => rfl
  | cons record others inductionHypothesis =>
      have notBlank : ¬ record.lineLetters.isEmpty = true := by
        rw [Record.lineLetters_eq]
        exact Bool.false_ne_true
      rw [List.map_cons, numberedLines, Record.trimLetters_lineLetters,
        if_neg notBlank, List.map_cons, inductionHypothesis]

/-- Every line of records whose times have no fraction is read as its record. -/
theorem readLines_recordText {records : List Record}
    (whole : ∀ record ∈ records, record.time.IsWhole) :
    (readLines (recordText records).toList).map Prod.snd =
      records.map .ok := by
  rw [readLines, linesOf_recordText]
  calc ((numberedLines 1 (records.map Record.lineLetters)).map
          fun entry => (entry.1, Record.readLetters entry.2)).map Prod.snd
      = ((numberedLines 1 (records.map Record.lineLetters)).map
          Prod.snd).map Record.readLetters := by
        rw [List.map_map, List.map_map]
        rfl
    _ = records.map fun record => Record.readLetters record.lineLetters := by
        rw [map_numberedLines, List.map_map]
        rfl
    _ = records.map .ok :=
        List.map_congr_left fun record member =>
          Record.readLetters_lineLetters (whole record member)

theorem isWhole_recordsOf {content : List Char} {record : Record}
    (member : record ∈ recordsOf content) : record.time.IsWhole := by
  rw [recordsOf_eq] at member
  obtain ⟨line, -, found⟩ := List.mem_filterMap.1 member
  cases outcome : Record.readLetters (trimLetters line) with
  | error fault =>
      rw [recordOf?, outcome] at found
      cases found
  | ok other =>
      rw [recordOf?, outcome] at found
      obtain rfl : other = record := Option.some.inj found
      exact Record.isWhole_readLetters outcome

/-! ## The recording that records make up -/

end Recording

namespace Record

def header? : Record → Option Header
  | header entry => some entry
  | _ => none

def footer? : Record → Option Footer
  | footer entry => some entry
  | _ => none

def core? : Record → Option CoreRecord
  | core entry => some entry
  | _ => none

theorem header?_eq_some {record : Record} {entry : Header}
    (found : record.header? = some entry) : record = header entry := by
  cases record with
  | header other => rw [Option.some.inj found]
  | footer | core => cases found

theorem footer?_eq_some {record : Record} {entry : Footer}
    (found : record.footer? = some entry) : record = footer entry := by
  cases record with
  | footer other => rw [Option.some.inj found]
  | header | core => cases found

theorem core?_eq_some {record : Record} {entry : CoreRecord}
    (found : record.core? = some entry) : record = core entry := by
  cases record with
  | core other => rw [Option.some.inj found]
  | header | footer => cases found

end Record

namespace Recording

/-- The recording of some records is their last header, their last footer and
all their core records. -/
theorem ofRecords_eq (records : List Record) :
    ofRecords records =
      ⟨(records.filterMap Record.header?).getLast?,
        (records.filterMap Record.footer?).getLast?,
        records.filterMap Record.core?⟩ := by
  induction records with
  | nil => rfl
  | cons record others inductionHypothesis =>
      have step : ofRecords (record :: others) =
          cons record (ofRecords others) := rfl
      have last {α : Type} (entry : α) (entries : List α) :
          (entry :: entries).getLast? = entries.getLast?.or (some entry) := by
        rw [List.getLast?_cons]
        cases entries.getLast? <;> rfl
      rw [step, inductionHypothesis]
      cases record with
      | header entry => exact congrArg (Recording.mk · _ _) (last _ _).symm
      | footer entry => exact congrArg (Recording.mk _ · _) (last _ _).symm
      | core entry => rfl

/-- Every part of the recording of some records is one of these records. -/
theorem mem_of_ofRecords (records : List Record) :
    (∀ header, (ofRecords records).header = some header →
        Record.header header ∈ records) ∧
      (∀ footer, (ofRecords records).footer = some footer →
        Record.footer footer ∈ records) ∧
      ∀ entry ∈ (ofRecords records).core, Record.core entry ∈ records := by
  rw [ofRecords_eq]
  refine ⟨fun header last => ?_, fun footer last => ?_,
    fun entry member => ?_⟩
  · obtain ⟨record, found, same⟩ :=
      List.mem_filterMap.1 (List.mem_of_getLast? last)
    rwa [← Record.header?_eq_some same]
  · obtain ⟨record, found, same⟩ :=
      List.mem_filterMap.1 (List.mem_of_getLast? last)
    rwa [← Record.footer?_eq_some same]
  · obtain ⟨record, found, same⟩ := List.mem_filterMap.1 member
    rwa [← Record.core?_eq_some same]

/-- `recording.IsWhole` means that no time of the recording has a fraction of
a second. -/
structure IsWhole (recording : Recording) : Prop where
  header : ∀ header, recording.header = some header → header.startedAt.IsWhole
  footer : ∀ footer, recording.footer = some footer → footer.endedAt.IsWhole
  core : ∀ entry ∈ recording.core, entry.time.IsWhole

/-- A recording that was read has no fractions of seconds. -/
theorem isWhole_read (content : String) : (read content).IsWhole := by
  obtain ⟨headers, footers, core⟩ :=
    mem_of_ofRecords (recordsOf content.toList)
  exact
    ⟨fun header found => isWhole_recordsOf (headers header found),
      fun footer found => isWhole_recordsOf (footers footer found),
      fun entry member => isWhole_recordsOf (core entry member)⟩

/-- The records of a recording in the order in which they are written. -/
def records (recording : Recording) : List Record :=
  (recording.header.map Record.header).toList ++
    recording.core.map Record.core ++
      (recording.footer.map Record.footer).toList

theorem ofRecords_records (recording : Recording) :
    ofRecords recording.records = recording := by
  obtain ⟨header, footer, core⟩ := recording
  have front (others : List CoreRecord) (recording : Recording) :
      (others.map Record.core).foldr cons recording =
        { recording with core := others ++ recording.core } := by
    induction others with
    | nil => rfl
    | cons entry rest inductionHypothesis =>
        rw [List.map_cons, List.foldr_cons, inductionHypothesis]
        rfl
  rw [ofRecords, records, List.foldr_append, List.foldr_append, front]
  cases header <;> cases footer <;>
    simp [cons, empty]

theorem isWhole_records {recording : Recording} (whole : recording.IsWhole) :
    ∀ record ∈ recording.records, record.time.IsWhole := by
  intro record member
  rw [records, List.mem_append, List.mem_append] at member
  rcases member with ((inHeader | inCore) | inFooter)
  · obtain ⟨header, found, rfl⟩ :=
      Option.map_eq_some_iff.1 (Option.mem_toList.1 inHeader)
    exact whole.header header found
  · obtain ⟨entry, found, rfl⟩ := List.mem_map.1 inCore
    exact whole.core entry found
  · obtain ⟨footer, found, rfl⟩ :=
      Option.map_eq_some_iff.1 (Option.mem_toList.1 inFooter)
    exact whole.footer footer found

/-- A recording without fractions of seconds is read back. -/
theorem read_recordText {recording : Recording} (whole : recording.IsWhole) :
    read (recordText recording.records) = recording := by
  rw [read, recordsOf_recordText (isWhole_records whole), ofRecords_records]

end Recording

end MeetingLog
