import MeetingLog.Proofs.Table
import MeetingLog.Statistics.Basic
import Mathlib.Algebra.BigOperators.Group.List.Basic
import Mathlib.Data.List.Induction
import Mathlib.Data.List.TakeWhile
import Mathlib.Data.UInt

/-!
# Statistics as a function of records

Statistics grow record by record, but what they say of a participant can be told
from the records about this participant alone: whether there is an entry, how
much was said, when the participant first joined and when they last left. The
totals are the sums over the entries.
-/

namespace MeetingLog

open MeetingLog.Calendar

/-! ## What records say -/

namespace CoreRecord

/-- What somebody said, if that is what the record is about. -/
def transcript? : CoreRecord → Option Transcript
  | transcript entry => some entry
  | lifecycle _ => none

/-- When somebody joined, if that is what the record is about. -/
def joinedAt? : CoreRecord → Option ClockTime
  | lifecycle ⟨time, _, .joined⟩ => some time
  | _ => none

/-- When somebody left, if that is what the record is about. -/
def leftAt? : CoreRecord → Option ClockTime
  | lifecycle ⟨time, _, .left⟩ => some time
  | _ => none

/-- `introduces record` means that the record gives its participant an entry if
there is none: somebody joined or spoke. -/
def introduces (record : CoreRecord) : Bool :=
  record.transcript?.isSome || record.joinedAt?.isSome

end CoreRecord

/-- The records about one participant. -/
def recordsOf (identity : String) (records : List CoreRecord) :
    List CoreRecord :=
  records.filter fun record => record.participant = identity

/-- How much was said. -/
structure Tally where
  words : UInt64
  turns : UInt64
  characters : UInt64
  deriving DecidableEq, Repr

namespace Tally

/-- Words, turns and characters of some transcripts. Words are counted in the
texts, whatever the transcripts say of their number. -/
def ofTranscripts (said : List Transcript) : Tally where
  words := .ofNat (said.map fun entry => Text.wordCount entry.text).sum
  turns := .ofNat said.length
  characters := .ofNat (said.map fun entry => entry.text.length).sum

/-- The tally of what is said in some records. -/
def ofRecords (records : List CoreRecord) : Tally :=
  ofTranscripts (records.filterMap CoreRecord.transcript?)

def speak (text : String) (tally : Tally) : Tally where
  words := tally.words + .ofNat (Text.wordCount text)
  turns := tally.turns + 1
  characters := tally.characters + .ofNat text.length

theorem ofRecords_transcript (records : List CoreRecord)
    (entry : Transcript) :
    ofRecords (records ++ [.transcript entry]) =
      (ofRecords records).speak entry.text := by
  have said : (records ++ [CoreRecord.transcript entry]).filterMap
      CoreRecord.transcript? =
        records.filterMap CoreRecord.transcript? ++ [entry] :=
    List.filterMap_append
  simp only [ofRecords, said, ofTranscripts, speak, List.map_append,
    List.sum_append, List.length_append, List.map_singleton,
    List.sum_singleton, List.length_singleton, UInt64.ofNat_add]
  rfl

/-- Records that are not about something said do not count. -/
theorem ofRecords_append_of_silent (records : List CoreRecord)
    {more : List CoreRecord}
    (silent : ∀ record ∈ more, record.transcript? = none) :
    ofRecords (records ++ more) = ofRecords records := by
  rw [ofRecords, List.filterMap_append, List.filterMap_eq_nil_iff.2 silent,
    List.append_nil]
  rfl

end Tally

namespace ParticipantStatistics

def tally (entry : ParticipantStatistics) : Tally :=
  ⟨entry.words, entry.turns, entry.characters⟩

/-- What is known about a participant from the records about them. Leavings
count only behind the record that introduces the participant. -/
def ofRecords? (identity : String) (own : List CoreRecord) :
    Option ParticipantStatistics :=
  if own.any CoreRecord.introduces then
    let known := own.dropWhile fun record => !record.introduces
    let tally := Tally.ofRecords own
    some
      { identity := identity
        name := identity
        joinedAt := own.findSome? CoreRecord.joinedAt?
        leftAt := (known.filterMap CoreRecord.leftAt?).getLast?
        words := tally.words
        turns := tally.turns
        characters := tally.characters }
  else none

variable {identity : String} {own : List CoreRecord}

theorem ofRecords?_isSome (identity : String) (own : List CoreRecord) :
    (ofRecords? identity own).isSome = own.any CoreRecord.introduces := by
  rw [ofRecords?]
  split <;> simp_all

theorem tally_of_ofRecords? {entry : ParticipantStatistics}
    (known : ofRecords? identity own = some entry) :
    entry.tally = Tally.ofRecords own := by
  rw [ofRecords?] at known
  split at known
  · obtain rfl := Option.some.inj known
    rfl
  · cases known

/-! ## One record more -/

theorem dropWhile_append_of_known (known : own.any CoreRecord.introduces = true)
    (more : List CoreRecord) :
    (own ++ more).dropWhile (fun record => !record.introduces) =
      own.dropWhile (fun record => !record.introduces) ++ more := by
  rw [List.dropWhile_append, if_neg]
  intro empty
  obtain ⟨record, member, introduces⟩ := List.any_eq_true.1 known
  have passed := List.dropWhile_eq_nil_iff.1 (List.isEmpty_iff.1 empty) record
    member
  rw [introduces] at passed
  cases passed

/-- Behind an introduction one record more can be the first joining and is the
last leaving, if it is about that at all. -/
theorem ofRecords?_append_of_known
    (known : own.any CoreRecord.introduces = true) (record : CoreRecord) :
    ofRecords? identity (own ++ [record]) =
      some
        { identity := identity
          name := identity
          joinedAt :=
            (own.findSome? CoreRecord.joinedAt?).or record.joinedAt?
          leftAt := record.leftAt?.or
            ((own.dropWhile fun record =>
              !record.introduces).filterMap CoreRecord.leftAt?).getLast?
          words := (Tally.ofRecords (own ++ [record])).words
          turns := (Tally.ofRecords (own ++ [record])).turns
          characters := (Tally.ofRecords (own ++ [record])).characters } := by
  have stillKnown : (own ++ [record]).any CoreRecord.introduces = true := by
    rw [List.any_append, known, Bool.true_or]
  have joinedAt : [record].findSome? CoreRecord.joinedAt? =
      record.joinedAt? := by
    cases found : record.joinedAt? <;> simp [found]
  have leftAt : ([record].filterMap CoreRecord.leftAt?).getLast? =
      record.leftAt? := by
    cases found : record.leftAt? <;> simp [found]
  rw [ofRecords?, if_pos stillKnown]
  simp only [List.findSome?_append, dropWhile_append_of_known known,
    List.filterMap_append, List.getLast?_append, joinedAt, leftAt]

/-- Records that introduce nobody do not count. -/
theorem ofRecords?_append_of_unknown
    (unknown : own.any CoreRecord.introduces = false) (record : CoreRecord) :
    ofRecords? identity (own ++ [record]) = ofRecords? identity [record] := by
  have quiet : ∀ other ∈ own, other.introduces = false := fun other member =>
    Bool.eq_false_iff.2 (List.any_eq_false.1 unknown other member)
  have silent : ∀ other ∈ own, other.transcript? = none ∧
      other.joinedAt? = none := by
    intro other member
    simpa [CoreRecord.introduces] using quiet other member
  have joinedAt : own.findSome? CoreRecord.joinedAt? = none :=
    List.findSome?_eq_none_iff.2 fun other member => (silent other member).2
  have said : own.filterMap CoreRecord.transcript? = [] :=
    List.filterMap_eq_nil_iff.2 fun other member => (silent other member).1
  have dropped : own.dropWhile (fun other => !other.introduces) = [] :=
    List.dropWhile_eq_nil_iff.2 fun other member => by
      simp [quiet other member]
  rw [ofRecords?, ofRecords?]
  simp only [List.any_append, unknown, Bool.false_or, List.dropWhile_append,
    dropped, List.isEmpty_nil, if_true, List.findSome?_append, joinedAt,
    Option.none_or, Tally.ofRecords, List.filterMap_append, said,
    List.nil_append]

theorem ofRecords?_of_unknown
    (unknown : own.any CoreRecord.introduces = false) :
    ofRecords? identity own = none := by
  rw [ofRecords?, if_neg (by rw [unknown]; exact Bool.false_ne_true)]

theorem ofRecords?_of_known (known : own.any CoreRecord.introduces = true) :
    ofRecords? identity own =
      some
        { identity := identity
          name := identity
          joinedAt := own.findSome? CoreRecord.joinedAt?
          leftAt := ((own.dropWhile fun record =>
            !record.introduces).filterMap CoreRecord.leftAt?).getLast?
          words := (Tally.ofRecords own).words
          turns := (Tally.ofRecords own).turns
          characters := (Tally.ofRecords own).characters } := by
  rw [ofRecords?, if_pos known]

theorem ofRecords?_transcript (spoken : Transcript) :
    ofRecords? identity (own ++ [.transcript spoken]) =
      some (((ofRecords? identity own).getD (new identity)).speak
        spoken.text) := by
  cases known : own.any CoreRecord.introduces with
  | false =>
      rw [ofRecords?_append_of_unknown known, ofRecords?_of_unknown known]
      have alone := Tally.ofRecords_transcript [] spoken
      rw [List.nil_append] at alone
      rw [ofRecords?_of_known rfl, alone]
      rfl
  | true =>
      rw [ofRecords?_append_of_known known, ofRecords?_of_known known,
        Tally.ofRecords_transcript]
      simp only [CoreRecord.joinedAt?, CoreRecord.leftAt?, Option.or_none,
        Option.none_or]
      rfl

theorem ofRecords?_joined (time : ClockTime) (participant : String) :
    ofRecords? identity (own ++ [.lifecycle ⟨time, participant, .joined⟩]) =
      some (((ofRecords? identity own).getD (new identity)).join time) := by
  cases known : own.any CoreRecord.introduces with
  | false =>
      rw [ofRecords?_append_of_unknown known, ofRecords?_of_unknown known]
      rfl
  | true =>
      have first : (own.findSome? CoreRecord.joinedAt?).or (some time) =
          some ((own.findSome? CoreRecord.joinedAt?).getD time) := by
        cases own.findSome? CoreRecord.joinedAt? <;> rfl
      rw [ofRecords?_append_of_known known, ofRecords?_of_known known,
        Tally.ofRecords_append_of_silent own
          (by simp [CoreRecord.transcript?])]
      simp only [CoreRecord.joinedAt?, CoreRecord.leftAt?, first,
        Option.none_or]
      rfl

theorem ofRecords?_left (time : ClockTime) (participant : String) :
    ofRecords? identity (own ++ [.lifecycle ⟨time, participant, .left⟩]) =
      (ofRecords? identity own).map (leave time) := by
  cases known : own.any CoreRecord.introduces with
  | false =>
      rw [ofRecords?_append_of_unknown known, ofRecords?_of_unknown known]
      rfl
  | true =>
      rw [ofRecords?_append_of_known known, ofRecords?_of_known known,
        Tally.ofRecords_append_of_silent own
          (by simp [CoreRecord.transcript?])]
      simp only [CoreRecord.joinedAt?, CoreRecord.leftAt?, Option.or_none,
        Option.some_or]
      rfl

/-- Whatever is neither something said nor somebody joining or leaving makes no
difference. -/
theorem ofRecords?_of_neither {record : CoreRecord}
    (quiet : record.introduces = false) (stays : record.leftAt? = none) :
    ofRecords? identity (own ++ [record]) = ofRecords? identity own := by
  obtain ⟨silent, notJoined⟩ :
      record.transcript? = none ∧ record.joinedAt? = none := by
    simpa [CoreRecord.introduces] using quiet
  cases known : own.any CoreRecord.introduces with
  | false =>
      rw [ofRecords?_append_of_unknown known, ofRecords?_of_unknown known,
        ofRecords?_of_unknown (by simp [quiet])]
  | true =>
      rw [ofRecords?_append_of_known known, ofRecords?_of_known known,
        Tally.ofRecords_append_of_silent own (by simp [silent]), notJoined,
        stays, Option.or_none, Option.none_or]

end ParticipantStatistics

/-! ## Sums over a table -/

namespace Table

variable {α M : Type} [AddCommMonoid M]

/-- The sum over a table is what one key adds, and the sum over the others. -/
theorem sum_values (table : Table String α) (key : String) (part : α → M) :
    (table.values.map part).sum =
      ((table.get? key).map part).getD 0 +
        ((table.erase key).values.map part).sum := by
  cases found : table.get? key with
  | none =>
      rw [erase_eq_self found, Option.map_none, Option.getD_none, zero_add]
  | some value =>
      have values := (entries_perm found).map (part ∘ Prod.snd)
      rw [Table.values, Table.values, List.map_map, List.map_map,
        values.sum_eq, List.map_cons, List.sum_cons]
      rfl

theorem sum_values_insert (table : Table String α) (key : String) (value : α)
    (part : α → M) :
    ((table.insert key value).values.map part).sum =
      part value + ((table.erase key).values.map part).sum := by
  rw [sum_values _ key, get?_insert_self, insert_erase]
  rfl

theorem sum_values_modify (table : Table String α) (key : String)
    {change : α → α} {part : α → M}
    (kept : ∀ value, part (change value) = part value) :
    ((table.modify key change).values.map part).sum =
      (table.values.map part).sum := by
  unfold modify
  cases found : table.get? key with
  | none => rfl
  | some value =>
      rw [sum_values_insert, kept, sum_values table key, found]
      rfl

end Table

/-! ## Statistics -/

theorem recordsOf_append (identity : String) (records more : List CoreRecord) :
    recordsOf identity (records ++ more) =
      recordsOf identity records ++ recordsOf identity more :=
  List.filter_append ..

/-- One record is about one participant. -/
theorem recordsOf_singleton (identity : String) (record : CoreRecord) :
    recordsOf identity [record] =
      if record.participant = identity then [record] else [] := by
  rw [recordsOf, List.filter_cons, List.filter_nil]
  simp only [decide_eq_true_eq]

namespace Statistics

/-- `statistics.Counts records` means that the entry of every participant is
what the records about this participant say, and that the totals are the sums
over the entries. -/
structure Counts (statistics : Statistics) (records : List CoreRecord) :
    Prop where
  entries : ∀ identity, statistics.participants.get? identity =
    ParticipantStatistics.ofRecords? identity (recordsOf identity records)
  turns : statistics.totalTurns =
    (statistics.participants.values.map (·.turns)).sum
  words : statistics.totalWords =
    (statistics.participants.values.map (·.words)).sum

theorem counts_new (room : String) (startedAt : ClockTime) :
    (new room startedAt).Counts [] :=
  ⟨fun _ => rfl, rfl, rfl⟩

variable {statistics : Statistics} {records : List CoreRecord}

/-- What changing one entry adds to the sum over all of them. -/
theorem sum_change (statistics : Statistics) (identity : String)
    (step : ParticipantStatistics → ParticipantStatistics)
    (part : ParticipantStatistics → UInt64) {more : UInt64}
    (nothing : part (ParticipantStatistics.new identity) = 0)
    (added : part (step (statistics.entry identity)) =
      part (statistics.entry identity) + more) :
    ((statistics.change identity step).participants.values.map part).sum =
      (statistics.participants.values.map part).sum + more := by
  have before : ((statistics.participants.get? identity).map part).getD 0 =
      part (statistics.entry identity) := by
    rw [entry]
    cases statistics.participants.get? identity with
    | none => exact nothing.symm
    | some found => rfl
  rw [statistics.participants.sum_values identity part, before, change,
    Table.sum_values_insert, added]
  ac_rfl

/-- The entries after one record more, when the entry of its participant is the
only one that has changed. -/
theorem Counts.entries_append {record : CoreRecord} {after : Statistics}
    (counts : statistics.Counts records)
    (own : after.participants.get? record.participant =
      ParticipantStatistics.ofRecords? record.participant
        (recordsOf record.participant records ++ [record]))
    (others : ∀ identity, identity ≠ record.participant →
      after.participants.get? identity =
        statistics.participants.get? identity) (identity : String) :
    after.participants.get? identity =
      ParticipantStatistics.ofRecords? identity
        (recordsOf identity (records ++ [record])) := by
  rw [recordsOf_append, recordsOf_singleton]
  split
  · next same =>
      subst same
      exact own
  · next other =>
      rw [others identity (Ne.symm other), List.append_nil]
      exact counts.entries identity

theorem get?_change_self (statistics : Statistics) (identity : String)
    (step : ParticipantStatistics → ParticipantStatistics) :
    (statistics.change identity step).participants.get? identity =
      some (step ((statistics.participants.get? identity).getD
        (ParticipantStatistics.new identity))) :=
  Table.get?_insert_self _ _ _

theorem get?_change_of_ne {identity other : String}
    (different : other ≠ identity)
    (step : ParticipantStatistics → ParticipantStatistics) :
    (statistics.change identity step).participants.get? other =
      statistics.participants.get? other :=
  Table.get?_insert_of_ne _ different _

theorem Counts.speak (counts : statistics.Counts records)
    (spoken : Transcript) :
    (statistics.speak spoken.participant spoken.text).Counts
      (records ++ [.transcript spoken]) := by
  refine ⟨counts.entries_append ?_ fun other different =>
    get?_change_of_ne different _, ?_, ?_⟩
  · rw [ParticipantStatistics.ofRecords?_transcript]
    refine (get?_change_self _ _ _).trans ?_
    rw [counts.entries spoken.participant]
    rfl
  · refine Eq.trans ?_ (sum_change statistics spoken.participant
      (ParticipantStatistics.speak spoken.text) (·.turns) rfl rfl).symm
    rw [← counts.turns]
    rfl
  · refine Eq.trans ?_ (sum_change statistics spoken.participant
      (ParticipantStatistics.speak spoken.text) (·.words) rfl rfl).symm
    rw [← counts.words]
    rfl

theorem Counts.join (counts : statistics.Counts records)
    (participant : String) (time : ClockTime) :
    (statistics.join participant time).Counts
      (records ++ [.lifecycle ⟨time, participant, .joined⟩]) := by
  refine ⟨counts.entries_append ?_ fun other different =>
    get?_change_of_ne different _, ?_, ?_⟩
  · rw [ParticipantStatistics.ofRecords?_joined]
    refine (get?_change_self _ _ _).trans ?_
    rw [counts.entries participant]
    rfl
  · have same := sum_change statistics participant
      (ParticipantStatistics.join time) (·.turns) rfl (add_zero _).symm
    rw [add_zero, ← counts.turns] at same
    exact same.symm
  · have same := sum_change statistics participant
      (ParticipantStatistics.join time) (·.words) rfl (add_zero _).symm
    rw [add_zero, ← counts.words] at same
    exact same.symm

theorem Counts.leave (counts : statistics.Counts records)
    (participant : String) (time : ClockTime) :
    (statistics.leave participant time).Counts
      (records ++ [.lifecycle ⟨time, participant, .left⟩]) := by
  have own (other : String) :
      (statistics.leave participant time).participants.get? other =
        if other = participant then
          (statistics.participants.get? participant).map
            (ParticipantStatistics.leave time)
        else statistics.participants.get? other :=
    Table.get?_modify _ _ _ _
  have sums (part : ParticipantStatistics → UInt64)
      (kept : ∀ entry, part (.leave time entry) = part entry) :
      ((statistics.leave participant time).participants.values.map
          part).sum = (statistics.participants.values.map part).sum :=
    Table.sum_values_modify _ _ kept
  refine ⟨counts.entries_append ?_ fun other different =>
    (own other).trans (if_neg different), ?_, ?_⟩
  · rw [ParticipantStatistics.ofRecords?_left]
    exact ((own participant).trans (if_pos rfl)).trans
      (congrArg _ (counts.entries participant))
  · exact counts.turns.trans (sums (·.turns) fun _ => rfl).symm
  · exact counts.words.trans (sums (·.words) fun _ => rfl).symm

/-- A record is counted for its participant and in the totals. -/
theorem Counts.add (counts : statistics.Counts records)
    (record : CoreRecord) :
    (statistics.add record).Counts (records ++ [record]) := by
  have idle {record : CoreRecord} (quiet : record.introduces = false)
      (stays : record.leftAt? = none) :
      statistics.Counts (records ++ [record]) := by
    refine ⟨counts.entries_append ?_ fun _ _ => rfl, counts.turns,
      counts.words⟩
    rw [ParticipantStatistics.ofRecords?_of_neither quiet stays]
    exact counts.entries _
  cases record with
  | transcript spoken => exact counts.speak spoken
  | lifecycle entry =>
      obtain ⟨time, participant, kind⟩ := entry
      cases kind with
      | joined => exact counts.join participant time
      | left => exact counts.leave participant time
      | paused | resumed => exact idle rfl rfl

theorem Counts.addAll (counts : statistics.Counts records)
    (more : List CoreRecord) :
    (statistics.addAll more).Counts (records ++ more) := by
  induction more generalizing statistics records with
  | nil =>
      rw [List.append_nil]
      exact counts
  | cons record others inductionHypothesis =>
      have later := inductionHypothesis (counts.add record)
      rwa [List.append_assoc] at later

/-- When a meeting began and ended makes no difference to the counts. -/
theorem Counts.frame (counts : statistics.Counts records)
    {other : Statistics}
    (participants : other.participants = statistics.participants)
    (turns : other.totalTurns = statistics.totalTurns)
    (words : other.totalWords = statistics.totalWords) :
    other.Counts records where
  entries := participants ▸ counts.entries
  turns := by rw [turns, participants, counts.turns]
  words := by rw [words, participants, counts.words]

/-- Counts of records that are the same for every participant are the same. -/
theorem Counts.eq_of_recordsOf {other : Statistics}
    {others : List CoreRecord} (counts : statistics.Counts records)
    (countsToo : other.Counts others)
    (same : ∀ identity, recordsOf identity others =
      recordsOf identity records) :
    other.participants = statistics.participants ∧
      other.totalTurns = statistics.totalTurns ∧
      other.totalWords = statistics.totalWords := by
  have participants : other.participants = statistics.participants := by
    refine Table.ext_get? fun identity => ?_
    rw [countsToo.entries, counts.entries, same]
  refine ⟨participants, ?_, ?_⟩
  · rw [countsToo.turns, counts.turns, participants]
  · rw [countsToo.words, counts.words, participants]

end Statistics

end MeetingLog
