import MeetingLog.Proofs.Json.Torn
import MeetingLog.Proofs.Record.Recording
import MeetingLog.Proofs.Text.Utf8

/-!
# Torn recordings

No proper beginning of a line is a record, trimmed or not. A file of record
lines that is cut off anywhere is therefore read as the records whose closing
braces are kept. The lines are ASCII, so that a cut never falls inside a
character.
-/

namespace MeetingLog

open MeetingLog.Calendar
open MeetingLog.Json
open MeetingLog.Text

namespace Record

/-- A torn line is no record. -/
theorem readLetters_torn {record : Record} {torn : List Char}
    (isTorn : IsTorn torn record.lineLetters) (other : Record) :
    readLetters torn ≠ .ok other :=
  decodeTagged_torn (members_names record) (members_scalar record) isTorn
    other

end Record

/-- Trimming only takes characters off the end of a torn line. -/
theorem trimLetters_torn {record : Record} {torn : List Char}
    (isTorn : IsTorn torn record.lineLetters) : trimLetters torn <+: torn := by
  have front : trimFront torn = torn := by
    rw [Record.lineLetters_eq, IsTorn.cons_iff] at isTorn
    rcases isTorn with (rfl | ⟨others, rfl, -⟩)
    · rfl
    · rw [trimFront, List.dropWhile_cons_of_neg (by decide)]
  have ending := List.dropWhile_suffix (l := torn.reverse) isBlank
  rw [trimLetters, front, trimBack, ← List.reverse_suffix,
    List.reverse_reverse]
  exact ending

namespace Recording

theorem recordOf?_torn {record : Record} {torn : List Char}
    (isTorn : IsTorn torn record.lineLetters) : recordOf? torn = none := by
  have trimmed : IsTorn (trimLetters torn) record.lineLetters :=
    isTorn.of_prefix (trimLetters_torn isTorn)
  rw [recordOf?]
  cases outcome : Record.readLetters (trimLetters torn) with
  | error fault => rfl
  | ok other => exact absurd outcome (Record.readLetters_torn trimmed other)

theorem recordsOf_torn {record : Record} {torn : List Char}
    (isTorn : IsTorn torn record.lineLetters) : recordsOf torn = [] := by
  have noFeed : '\n' ∉ torn := by
    obtain ⟨c, rest, whole⟩ := isTorn
    intro member
    apply record.feed_not_mem_lineLetters
    rw [whole]
    exact List.mem_append_left _ member
  rw [recordsOf_of_noFeed noFeed, recordOf?_torn isTorn]
  rfl

end Recording

/-! ## Bytes -/

/-- The number of bytes of a file up to the closing brace of a record that
stands behind some others. -/
def braceEnd (front : List Record) (record : Record) : Nat :=
  (bytesOf (recordText front ++ record.line)).length

theorem length_line (record : Record) :
    (bytesOf record.line).length = record.lineLetters.length := by
  rw [bytesOf, Record.line, String.toList_ofList]
  exact length_encode_ascii fun c member =>
    (record.isPlainAscii_lineLetters c member).2

theorem braceEnd_nil (record : Record) :
    braceEnd [] record = record.lineLetters.length := by
  have noText : recordText [] = "" := rfl
  rw [braceEnd, noText, String.empty_append, length_line]

theorem braceEnd_cons (first : Record) (front : List Record)
    (record : Record) :
    braceEnd (first :: front) record =
      first.lineLetters.length + 1 + braceEnd front record := by
  have feed : (bytesOf "\n").length = 1 := by decide
  rw [braceEnd, braceEnd, recordText_cons, String.append_assoc, bytesOf_append,
    bytesOf_append, List.length_append, List.length_append, length_line, feed]

theorem braceEnd_pos (front : List Record) (record : Record) :
    0 < braceEnd front record := by
  have visible : 0 < record.lineLetters.length := by
    rw [Record.lineLetters_eq]
    exact Nat.succ_pos _
  rw [braceEnd, bytesOf_append, List.length_append, length_line]
  exact Nat.add_pos_right _ visible

theorem ascii_recordText (records : List Record) :
    ∀ c ∈ (recordText records).toList, c.toNat < 0x80 := by
  intro c member
  rw [toList_recordText, List.mem_flatMap] at member
  obtain ⟨record, -, inLine⟩ := member
  rcases List.mem_append.1 inLine with (letter | feed)
  · exact (record.isPlainAscii_lineLetters c letter).2
  · rw [List.mem_singleton.1 feed]
    decide

/-- A file of record lines can be cut at every byte. -/
theorem decode?_take_recordText (records : List Record) (size : Nat) :
    decode? ((bytesOf (recordText records)).take size) =
      some ((recordText records).toList.take size) := by
  rw [bytesOf, take_encode_ascii (ascii_recordText records), decode?_encode]

/-! ## Kept records -/

namespace Recording

/-- What is kept of a line and of what follows it is the line, once its closing
brace is kept, and what is kept of the rest. -/
theorem recordsOf_take_line {record : Record} (whole : record.time.IsWhole)
    (rest : List Char) {size : Nat}
    (kept : record.lineLetters.length ≤ size) :
    recordsOf ((record.lineLetters ++ '\n' :: rest).take size) =
      record :: recordsOf (rest.take (size - (record.lineLetters.length + 1))) := by
  rw [List.take_append, List.take_of_length_le kept]
  by_cases exactly : record.lineLetters.length = size
  · have gone : size - record.lineLetters.length = 0 := by
      omega
    have goneToo : size - (record.lineLetters.length + 1) = 0 := by
      omega
    rw [gone, goneToo, List.take_zero, List.take_zero, List.append_nil,
      recordsOf_of_noFeed record.feed_not_mem_lineLetters,
      recordOf?_lineLetters whole]
    rfl
  · obtain ⟨more, enough⟩ : ∃ more, size - record.lineLetters.length =
        more + 1 :=
      Nat.exists_eq_succ_of_ne_zero (by omega)
    have fewer : size - (record.lineLetters.length + 1) = more := by
      omega
    have single := recordsOf_append
      (List.forall_mem_singleton.2 whole) (rest.take more)
    rw [toList_recordText, List.flatMap_singleton, List.append_assoc,
      List.singleton_append] at single
    rw [enough, fewer, List.take_succ_cons, single]
    rfl

/-- A file of record lines that is cut off is read as its first records, and
they are those whose closing braces are kept. -/
theorem recordsOf_take {records : List Record}
    (whole : ∀ record ∈ records, record.time.IsWhole) (size : Nat) :
    ∃ kept,
      recordsOf ((recordText records).toList.take size) =
        records.take kept ∧
      ∀ front record back, records = front ++ record :: back →
        (front.length < kept ↔ braceEnd front record ≤ size) := by
  induction records generalizing size with
  | nil =>
      have nothing : (recordText []).toList = [] := rfl
      refine ⟨0, ?_, fun front record back shape => ?_⟩
      · rw [nothing, List.take_nil]
        rfl
      · exact absurd shape.symm (by simp)
  | cons first others inductionHypothesis =>
      rw [List.forall_mem_cons] at whole
      have letters : (recordText (first :: others)).toList =
          first.lineLetters ++ '\n' :: (recordText others).toList := by
        rw [toList_recordText, List.flatMap_cons, List.append_assoc,
          List.singleton_append, ← toList_recordText]
      rw [letters]
      by_cases inside : size < first.lineLetters.length
      · refine ⟨0, ?_, ?_⟩
        · rw [List.take_append_of_le_length (Nat.le_of_lt inside)]
          exact recordsOf_torn (IsTorn.take inside)
        · intro front record back shape
          have late : first.lineLetters.length ≤ braceEnd front record := by
            cases front with
            | nil =>
                obtain ⟨rfl, -⟩ := List.cons.inj shape
                rw [braceEnd_nil]
            | cons leading others =>
                obtain ⟨rfl, -⟩ := List.cons.inj shape
                rw [braceEnd_cons]
                omega
          exact iff_of_false (Nat.not_lt_zero _) (by omega)
      · have enough : first.lineLetters.length ≤ size := Nat.le_of_not_lt inside
        obtain ⟨kept, read, braces⟩ := inductionHypothesis whole.2
          (size - (first.lineLetters.length + 1))
        refine ⟨kept + 1, ?_, ?_⟩
        · rw [recordsOf_take_line whole.1 _ enough, read]
          rfl
        · intro front record back shape
          cases front with
          | nil =>
              obtain ⟨rfl, -⟩ := List.cons.inj shape
              rw [braceEnd_nil]
              exact iff_of_true (Nat.succ_pos kept) enough
          | cons leading front =>
              obtain ⟨rfl, same⟩ := List.cons.inj shape
              have later := braces front record back same
              have positive := braceEnd_pos front record
              rw [braceEnd_cons, List.length_cons]
              omega

/-- The first records of a recording are those of a recording again. -/
theorem take_records (header : Header) (footer : Option Footer)
    (core : List CoreRecord) (kept : Nat) :
    (Recording.mk (some header) footer core).records.take kept =
      (Recording.mk (if 0 < kept then some header else none)
        (footer.filter fun _ => core.length + 1 < kept)
        (core.take (kept - 1))).records := by
  cases kept with
  | zero => cases footer <;> rfl
  | succ kept =>
      have shape (footer : Option Footer) (core : List CoreRecord) :
          (Recording.mk (some header) footer core).records =
            .header header ::
              (core.map Record.core ++ (footer.map Record.footer).toList) :=
        rfl
      have ending : (footer.map Record.footer).toList.take
          (kept - core.length) =
            ((footer.filter fun _ => core.length + 1 < kept + 1).map
              Record.footer).toList := by
        cases footer with
        | none => exact List.take_nil
        | some footer =>
            by_cases reached : core.length < kept
            · have positive : 1 ≤ kept - core.length := by
                omega
              rw [Option.filter_some_pos (by simpa using reached)]
              exact List.take_of_length_le positive
            · have nothing : kept - core.length = 0 := by
                omega
              rw [Option.filter_some_neg (by simpa using reached), nothing]
              rfl
      rw [if_pos (Nat.succ_pos kept), shape, shape, List.take_succ_cons,
        List.take_append, List.length_map, ending, List.map_take,
        Nat.add_sub_cancel]

/-- A recording that is cut off is read as what is kept of it: its header and
its footer if their closing braces are kept, and the core records in front of
the cut. -/
theorem read_take {header : Header} {footer : Option Footer}
    {core : List CoreRecord}
    (whole : (Recording.mk (some header) footer core).IsWhole) (size : Nat) :
    ∃ kept,
      read (String.ofList ((recordText
          (Recording.mk (some header) footer core).records).toList.take
            size)) =
        { header :=
            if braceEnd [] (.header header) ≤ size then some header else none
          footer := footer.filter fun footer =>
            braceEnd (.header header :: core.map Record.core)
              (.footer footer) ≤ size
          core := core.take kept } ∧
      ∀ front entry back, core = front ++ entry :: back →
        (front.length < kept ↔
          braceEnd (.header header :: front.map Record.core)
            (.core entry) ≤ size) := by
  obtain ⟨kept, taken, braces⟩ := recordsOf_take (isWhole_records whole) size
  have opening : 0 < kept ↔ braceEnd [] (.header header) ≤ size :=
    braces [] _ _ rfl
  refine ⟨kept - 1, ?_, fun front entry back shape => ?_⟩
  · have closing : (footer.filter fun _ => core.length + 1 < kept) =
        footer.filter fun footer =>
          braceEnd (.header header :: core.map Record.core)
            (.footer footer) ≤ size := by
      cases footer with
      | none => rfl
      | some footer =>
          have brace := braces (.header header :: core.map Record.core)
            (.footer footer) [] rfl
          rw [List.length_cons, List.length_map] at brace
          simp only [Option.filter_some, brace]
    rw [read, String.toList_ofList, taken, take_records, ofRecords_records,
      closing]
    simp only [opening]
  · have brace := braces (.header header :: front.map Record.core)
      (.core entry)
      (back.map Record.core ++ (footer.map Record.footer).toList) (by
        rw [shape]
        simp [records])
    rw [List.length_cons, List.length_map] at brace
    rw [← brace]
    omega

end Recording

end MeetingLog
