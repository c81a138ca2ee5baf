import MeetingLog.Trace.Recovery
import MeetingLog.Proofs.Calendar.Date
import MeetingLog.Proofs.Calendar.Clock
import MeetingLog.Proofs.Text.Lines
import Mathlib.Data.List.Basic

/-!
# Trace lines read back

A note without line feeds is written on one line. From the line of a note of
the level `info` its moment, without the fraction of a second, and its message
are read back; no other level is taken for it.
-/

namespace MeetingLog.Trace

open MeetingLog.Calendar
open MeetingLog.Text

/-! ## Messages -/

/-- `IsPlain text` means that no character of the text ends a line or is
written as an escape. -/
def IsPlain (text : String) : Prop :=
  ∀ c ∈ text.toList, c ≠ '\n' ∧ writeLetter c = [c]

instance (text : String) : Decidable (IsPlain text) :=
  decidable_of_iff
    (text.toList.all fun c => c ≠ '\n' ∧ writeLetter c = [c])
    (by simp [IsPlain])

theorem IsPlain.append {front back : String} (plain : IsPlain front)
    (plainToo : IsPlain back) : IsPlain (front ++ back) := by
  intro c member
  rw [String.toList_append] at member
  rcases List.mem_append.1 member with (inFront | inBack)
  · exact plain c inFront
  · exact plainToo c inBack

theorem IsPlain.isOneLine {text : String} (plain : IsPlain text) :
    IsOneLine text :=
  fun member => (plain '\n' member).1 rfl

theorem writeMessage_append (front back : String) :
    writeMessage (front ++ back) = writeMessage front ++ writeMessage back := by
  rw [writeMessage, String.toList_append, List.flatMap_append]
  rfl

/-- Characters that are not written as escapes are written as they are. -/
theorem writeMessage_of_forall {text : String}
    (same : ∀ c ∈ text.toList, writeLetter c = [c]) :
    writeMessage text = text.toList := by
  rw [writeMessage]
  generalize text.toList = letters at same ⊢
  induction letters with
  | nil => rfl
  | cons c rest inductionHypothesis =>
      rw [List.flatMap_cons, same c List.mem_cons_self,
        inductionHypothesis fun d member =>
          same d (List.mem_cons_of_mem _ member)]
      rfl

theorem writeMessage_of_isPlain {text : String} (plain : IsPlain text) :
    writeMessage text = text.toList :=
  writeMessage_of_forall fun c member => (plain c member).2

theorem feed_ne_hexByte : ∀ number < 256, '\n' ∉ hexByte number := by
  decide +kernel

theorem feed_not_mem_writeLetter {c : Char} (noFeed : c ≠ '\n') :
    '\n' ∉ writeLetter c := by
  rw [writeLetter]
  split
  · next special =>
      have small : c.toNat < 256 := by omega
      simp only [List.mem_append, List.mem_cons, List.not_mem_nil, or_false,
        feed_ne_hexByte c.toNat small]
      decide
  split
  · next special =>
      have small : c.toNat < 256 := by omega
      simp only [List.mem_append, List.mem_cons, List.not_mem_nil, or_false,
        feed_ne_hexByte c.toNat small]
      decide
  · intro member
    exact noFeed (List.mem_singleton.1 member).symm

/-- A message without line feeds is written without line feeds. -/
theorem feed_not_mem_writeMessage {message : String}
    (oneLine : IsOneLine message) : '\n' ∉ writeMessage message := by
  intro member
  obtain ⟨c, inMessage, inLetter⟩ := List.mem_flatMap.1 member
  refine feed_not_mem_writeLetter (fun equality => ?_) inLetter
  rw [equality] at inMessage
  exact oneLine inMessage

/-! ## Lines -/

/-- What stands in front of the message on a trace line, without the space
directly in front of it. -/
def lineFront (logger : String) (time : Moment) (level : Level) : List Char :=
  time.letters ++ (',' :: (fixedDigits 3 time.milliseconds ++ (dash ++
    (logger.toList ++ (dash ++ (level.name.toList ++ [' ', '-']))))))

theorem lineLetters_eq (logger : String) (time : Moment) (note : Note) :
    lineLetters logger time note =
      lineFront logger time note.level ++ [' '] ++
        writeMessage note.message := by
  simp [lineLetters, lineFront, dash]

theorem feed_not_mem_lineLetters {logger : String} {note : Note}
    (oneLine : IsOneLine logger) (oneLineToo : IsOneLine note.message)
    (time : Moment) : '\n' ∉ lineLetters logger time note := by
  have level : '\n' ∉ note.level.name.toList := by
    cases note.level <;> decide
  have between : '\n' ∉ dash := by decide
  have moment : '\n' ∉ time.letters := by
    simp only [Moment.letters, List.mem_append, List.mem_cons,
      Date.feed_not_mem_letters, ClockTime.feed_not_mem_letters, false_or,
      or_false]
    decide
  simp only [lineLetters, List.mem_append, List.mem_cons, moment, between,
    level, show '\n' ∉ logger.toList from oneLine, feed_not_mem_fixedDigits,
    feed_not_mem_writeMessage oneLineToo, false_or, or_false]
  decide

/-- Entries without line feeds are written on one line each. -/
theorem linesOf_write {logger : String} (oneLine : IsOneLine logger)
    {limit : Level} {entries : List Entry}
    (clear : ∀ entry ∈ entries, limit.allows entry.note.level = true →
      IsOneLine entry.note.message) :
    linesOf (write logger limit entries) =
      (entries.filter fun entry => limit.allows entry.note.level).map
        fun entry =>
          dropReturn (lineLetters logger entry.time entry.note) := by
  rw [write]
  have shown : ∀ entry ∈
      entries.filter fun entry => limit.allows entry.note.level,
      IsOneLine entry.note.message := by
    intro entry member
    obtain ⟨inEntries, allowed⟩ := List.mem_filter.1 member
    exact clear entry inEntries allowed
  generalize (entries.filter fun entry =>
    limit.allows entry.note.level) = others at shown ⊢
  induction others with
  | nil => rfl
  | cons entry rest inductionHypothesis =>
      have line := feed_not_mem_lineLetters oneLine
        (shown entry List.mem_cons_self) entry.time
      rw [List.flatMap_cons, List.append_assoc, List.singleton_append,
        linesOf_append_feed line, inductionHypothesis fun other member =>
          shown other (List.mem_cons_of_mem _ member), List.map_cons]

/-! ## Reading -/

theorem readClock?_letters (time : ClockTime) (rest : List Char) :
    readClock? (time.letters ++ rest) = some (time.wholeSecond, rest) := by
  have hour : time.hour.val < 10 ^ 2 := Nat.lt_trans time.hour.isLt (by decide)
  have minute : time.minute.val < 10 ^ 2 :=
    Nat.lt_trans time.minute.isLt (by decide)
  have second : time.second.val < 10 ^ 2 :=
    Nat.lt_trans time.second.isLt (by decide)
  rw [ClockTime.letters_append, readClock?]
  simp only [Date.readFixed?_fixedDigits hour,
    Date.readFixed?_fixedDigits minute, Date.readFixed?_fixedDigits second,
    expectChar?_cons, ClockTime.ofParts?_parts, Option.bind_eq_bind,
    Option.bind_some]
  rfl

theorem skipFraction?_digits (number : Nat) (rest : List Char) :
    skipFraction? (fixedDigits 3 number ++ (dash ++ rest)) =
      some (dash ++ rest) := by
  have digits : ∀ c ∈ fixedDigits 3 number, isDecimalDigit c = true := by
    intro c member
    obtain ⟨value, rfl⟩ := mem_fixedDigits member
    exact isDecimalDigit_digitChar value
  have length := length_fixedDigits 3 number
  cases shape : fixedDigits 3 number with
  | nil =>
      rw [shape] at length
      exact absurd length (by decide)
  | cons c others =>
      rw [shape] at digits
      have later : ∀ d ∈ others, isDecimalDigit d = true := fun d member =>
        digits d (List.mem_cons_of_mem _ member)
      rw [List.cons_append, skipFraction?,
        if_pos (digits c List.mem_cons_self),
        List.dropWhile_append_of_pos later]
      rfl

/-- What stands in front of a message is read as a note of the level `info`, and
not at all for another level. -/
theorem readNote?_front {logger : String} {time : Moment} {level : Level}
    (fourDigits : time.date.HasFourDigits) (message : List Char) :
    readNote? logger (lineFront logger time level ++ [' '] ++ message) =
      if level = .info then some (time.wholeSecond, message) else none := by
  have parts : lineFront logger time level ++ [' '] ++ message =
      time.date.letters ++ (' ' :: (time.time.letters ++ (',' ::
        (fixedDigits 3 time.milliseconds ++ (dash ++ (logger.toList ++
          (dash ++ (level.name.toList ++ (dash ++ message))))))))) := by
    simp [lineFront, Moment.letters, dash]
  have front : readNote? logger
      (lineFront logger time level ++ [' '] ++ message) =
      (expect? "INFO".toList (level.name.toList ++ (dash ++ message))).bind
        fun rest => (expect? dash rest).bind fun rest =>
          some (time.wholeSecond, rest) := by
    rw [parts, readNote?]
    simp only [Date.readFront?_letters fourDigits, expectChar?_cons,
      readClock?_letters, skipFraction?_digits, expect?_append,
      Option.bind_eq_bind, Option.bind_some]
    rfl
  rw [front]
  cases level with
  | info =>
      rw [if_pos rfl, Level.name, expect?_append, Option.bind_some,
        expect?_append, Option.bind_some]
  | error | warning | debug | detail =>
      rw [if_neg (by decide)]
      rfl

/-- What a trace line is read as: the moment and the message of a note of the
level `info`, and nothing for another level. -/
theorem readNote?_lineLetters {logger : String} {time : Moment}
    (fourDigits : time.date.HasFourDigits) (note : Note) :
    readNote? logger
        (trimLineEnd (dropReturn (lineLetters logger time note))) =
      if note.level = .info then
        some (time.wholeSecond, trimLineEnd (writeMessage note.message))
      else none := by
  rw [trimLineEnd_dropReturn, lineLetters_eq,
    trimLineEnd_append (by decide) (by decide), readNote?_front fourDigits]

/-- The record that a message noted at a moment tells of. -/
def readMessage? (loggedAt : Moment) (message : List Char) :
    Option Recovered :=
  match readSpoken? message with
  | some transcript => some ⟨loggedAt, .transcript transcript⟩
  | none =>
      (readPresence? loggedAt.time message).map fun lifecycle =>
        ⟨loggedAt, .lifecycle lifecycle⟩

theorem readLine?_eq (logger : String) (line : List Char) :
    readLine? logger line =
      (readNote? logger (trimLineEnd line)).bind fun note =>
        readMessage? note.1 note.2 := by
  rw [readLine?]
  cases readNote? logger (trimLineEnd line) with
  | none => rfl
  | some note =>
      obtain ⟨loggedAt, message⟩ := note
      simp only [Option.bind_eq_bind, Option.bind_some, readMessage?]
      cases readSpoken? message with
      | some transcript => rfl
      | none => cases readPresence? loggedAt.time message <;> rfl

/-- The record that an entry of the trace tells of once it has been written and
read. -/
def Entry.recovered? (entry : Entry) : Option Recovered :=
  if entry.note.level = .info then
    readMessage? entry.time.wholeSecond
      (trimLineEnd (writeMessage entry.note.message))
  else none

theorem readAll_ofList (logger : String) (letters : List Char) :
    readAll logger (String.ofList letters) =
      (linesOf letters).filterMap (readLine? logger) := by
  rw [readAll, String.toList_ofList]

/-- A written trace is read back as what its entries tell of. -/
theorem readAll_write {logger : String} (oneLine : IsOneLine logger)
    {entries : List Entry}
    (fourDigits : ∀ entry ∈ entries, entry.time.date.HasFourDigits)
    (clear : ∀ entry ∈ entries, Level.info.allows entry.note.level = true →
      IsOneLine entry.note.message) :
    readAll logger (String.ofList (write logger .info entries)) =
      entries.filterMap Entry.recovered? := by
  have read : ∀ entry ∈ entries,
      readLine? logger
          (dropReturn (lineLetters logger entry.time entry.note)) =
        entry.recovered? := by
    intro entry member
    rw [readLine?_eq, readNote?_lineLetters (fourDigits entry member),
      Entry.recovered?]
    split <;> rfl
  rw [readAll_ofList, linesOf_write oneLine clear, List.filterMap_map,
    List.filterMap_filter]
  refine List.filterMap_congr fun entry member => ?_
  rw [Function.comp_apply, read entry member]
  split
  · rfl
  · next hidden =>
      have other : entry.note.level ≠ .info := by
        intro equality
        rw [equality] at hidden
        exact hidden rfl
      rw [Entry.recovered?, if_neg other]

end MeetingLog.Trace
