import MeetingLog.Repair.Signature
import MeetingLog.Proofs.Text.Blank

/-!
# What signatures tell apart

The signature of a transcript tells time and participant, and the text but for
its blank characters; that of a lifecycle record tells everything. So an
utterance keeps its signature when its text is trimmed, collapsed or left as it
is.
-/

namespace MeetingLog

open MeetingLog.Calendar
open MeetingLog.Text

/-- The codes of the characters with the Unicode property `White_Space`. -/
def whiteSpaceCodes : List Nat :=
  [0x9, 0xA, 0xB, 0xC, 0xD, 0x20, 0x85, 0xA0, 0x1680, 0x2000, 0x2001, 0x2002,
    0x2003, 0x2004, 0x2005, 0x2006, 0x2007, 0x2008, 0x2009, 0x200A, 0x2028,
    0x2029, 0x202F, 0x205F, 0x3000]

theorem isBlank_iff (c : Char) :
    isBlank c = true ↔ c.toNat ∈ whiteSpaceCodes := by
  simp only [isBlank, whiteSpaceCodes, List.mem_cons, List.not_mem_nil,
    or_false, Bool.or_eq_true, Bool.and_eq_true, decide_eq_true_eq, beq_iff_eq]
  omega

theorem Transcript.ofUtterance?_eq_none_iff (time : ClockTime)
    (participant text : String) :
    ofUtterance? time participant text = none ↔ allBlank text = true := by
  rw [ofUtterance?, ← trim_eq_empty_iff]
  split
  · next empty => exact iff_of_true rfl empty
  · next spoken => exact iff_of_false (by simp) spoken

theorem Transcript.ofUtterance?_of_spoken {text : String}
    (spoken : allBlank text = false) (time : ClockTime)
    (participant : String) :
    ofUtterance? time participant text =
      some ⟨time, participant, trim text, .ofNat (Text.wordCount text)⟩ := by
  have notEmpty : trim text ≠ "" := by
    rw [Ne, trim_eq_empty_iff, spoken]
    exact Bool.false_ne_true
  rw [ofUtterance?, if_neg notEmpty, wordCount_trim]

namespace Signature

/-- A signature in four parts: the time, a word for the kind of record, the
participant, and what happened or was said. -/
def parts (signature : Signature) : ClockTime × String × String × String :=
  match signature.content with
  | .change kind =>
      (signature.time, "event", signature.participant, kind.name)
  | .speech letters =>
      (signature.time, "transcript", signature.participant, letters)

/-- Names tell the kinds of changes apart. -/
theorem name_injective : Function.Injective LifecycleKind.name := by
  intro kind other same
  have found := congrArg LifecycleKind.ofName? same
  rw [LifecycleKind.ofName?_name, LifecycleKind.ofName?_name] at found
  exact Option.some.inj found

theorem parts_injective : Function.Injective parts := by
  rintro ⟨time, participant, content⟩ ⟨otherTime, otherParticipant, other⟩ same
  cases content with
  | change kind =>
      cases other with
      | change otherKind =>
          simp only [parts, Prod.mk.injEq, true_and] at same
          obtain ⟨rfl, rfl, kinds⟩ := same
          rw [name_injective kinds]
      | speech letters => simp [parts] at same
  | speech letters =>
      cases other with
      | change kind => simp [parts] at same
      | speech otherLetters =>
          simp only [parts, Prod.mk.injEq, true_and] at same
          obtain ⟨rfl, rfl, rfl⟩ := same
          rfl

theorem ofRecord_transcript_eq_iff (first second : Transcript) :
    ofRecord (.transcript first) = ofRecord (.transcript second) ↔
      first.time = second.time ∧ first.participant = second.participant ∧
        visibleLetters first.text.toList =
          visibleLetters second.text.toList := by
  rw [← squeeze_eq_iff]
  simp [ofRecord]

theorem ofRecord_lifecycle_eq_iff (first second : Lifecycle) :
    ofRecord (.lifecycle first) = ofRecord (.lifecycle second) ↔
      first = second := by
  obtain ⟨time, participant, kind⟩ := first
  obtain ⟨otherTime, otherParticipant, otherKind⟩ := second
  simp [ofRecord]

theorem ofRecord_transcript_ne_lifecycle (transcript : Transcript)
    (lifecycle : Lifecycle) :
    ofRecord (.transcript transcript) ≠ ofRecord (.lifecycle lifecycle) := by
  intro same
  cases congrArg Signature.content same

/-- However an utterance is written, its signature is that of its transcript,
whatever number of words goes with it. -/
theorem ofRecord_trim (time : ClockTime) (participant text : String)
    (count other : UInt64) :
    ofRecord (.transcript ⟨time, participant, trim text, count⟩) =
      ofRecord (.transcript ⟨time, participant, text, other⟩) := by
  rw [ofRecord, ofRecord, squeeze_trim]

theorem ofRecord_collapse (time : ClockTime) (participant text : String)
    (count other : UInt64) :
    ofRecord (.transcript ⟨time, participant, collapse text, count⟩) =
      ofRecord (.transcript ⟨time, participant, text, other⟩) := by
  rw [ofRecord, ofRecord, squeeze_collapse]

end Signature

/-- What becomes of a text, and when two records have the same signature. -/
theorem signatures_see_past_blanks :
    (∀ c, isBlank c = true ↔ c.toNat ∈ whiteSpaceCodes) ∧
    (∀ text : String,
      collapse (collapse text) = collapse text ∧
        HasVisibleEnds (collapse text) ∧
        wordCount (collapse text) = wordCount text) ∧
    (∀ (time : ClockTime) (participant text : String),
      Transcript.ofUtterance? time participant text = none ↔
        allBlank text = true) ∧
    (∀ (time : ClockTime) (participant text : String),
      allBlank text = false →
      ∃ transcript,
        Transcript.ofUtterance? time participant text = some transcript ∧
        transcript.time = time ∧ transcript.participant = participant ∧
        IsTrimming text transcript.text ∧
        transcript.wordCount = .ofNat (wordCount text) ∧
        ∀ count,
          Signature.ofRecord (.transcript transcript) =
              Signature.ofRecord
                (.transcript ⟨time, participant, text, count⟩) ∧
            Signature.ofRecord (.transcript transcript) =
              Signature.ofRecord
                (.transcript ⟨time, participant, collapse text, count⟩)) ∧
    (∀ first second : Transcript,
      Signature.ofRecord (.transcript first) =
          Signature.ofRecord (.transcript second) ↔
        first.time = second.time ∧ first.participant = second.participant ∧
          visibleLetters first.text.toList =
            visibleLetters second.text.toList) ∧
    (∀ first second : Lifecycle,
      Signature.ofRecord (.lifecycle first) =
          Signature.ofRecord (.lifecycle second) ↔
        first = second) ∧
    (∀ transcript lifecycle, Signature.ofRecord (.transcript transcript) ≠
      Signature.ofRecord (.lifecycle lifecycle)) ∧
    Function.Injective Signature.parts := by
  refine ⟨isBlank_iff, fun text => ?_, Transcript.ofUtterance?_eq_none_iff,
    fun time participant text spoken => ?_,
    Signature.ofRecord_transcript_eq_iff, Signature.ofRecord_lifecycle_eq_iff,
    Signature.ofRecord_transcript_ne_lifecycle, Signature.parts_injective⟩
  · exact ⟨collapse_collapse text, hasVisibleEnds_collapse text,
      wordCount_collapse text⟩
  · refine ⟨_, Transcript.ofUtterance?_of_spoken spoken time participant, rfl,
      rfl, isTrimming_trim text, rfl, fun count => ?_⟩
    have trimmed := Signature.ofRecord_trim time participant text
      (.ofNat (wordCount text)) count
    have collapsed := Signature.ofRecord_collapse time participant text count
      count
    exact ⟨trimmed, trimmed.trans collapsed.symm⟩

/-- An utterance with blank characters of many kinds, a word split by one of
them, and letters that only look blank. -/
def scattered : String :=
  "\u3000dri\u00a0n \u200b\u0085\t\u2028\r\n"

theorem scattered_keeps_signature :
    allBlank scattered = false ∧
    ∃ transcript,
      Transcript.ofUtterance? .midnight "ann" scattered = some transcript ∧
      transcript.wordCount = 3 ∧
      Signature.ofRecord (.transcript transcript) =
        Signature.ofRecord
          (.transcript ⟨.midnight, "ann", "drin\u200b", 2⟩) := by
  obtain ⟨-, -, -, spoken, sameLetters, -⟩ := signatures_see_past_blanks
  have notBlank : allBlank scattered = false := by decide
  obtain ⟨transcript, uttered, -, -, -, counted, same⟩ :=
    spoken .midnight "ann" scattered notBlank
  refine ⟨notBlank, transcript, uttered, ?_, ?_⟩
  · rw [counted]
    decide
  · rw [(same 0).1]
    exact (sameLetters _ _).2 ⟨rfl, rfl, by decide⟩

end MeetingLog
