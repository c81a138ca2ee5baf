import Mathlib.Data.List.Induction
import Mathlib.Data.List.Nodup
import MeetingLog.Proofs.Table
import MeetingLog.Wire.Switchboard

/-!
# Which routes there are

The routes of a switchboard are told by the steps that it has taken: a session
has a route while its opening is being published, and as long as it is open.
Every session has an identity of its own, an opening is published once, and
only a session that was opened is asked to close, which happens once. Openings
and closings of different sessions may overlap in any way.
-/

namespace MeetingLog.Wire

namespace SwitchboardStep

/-- The session whose opening a step begins. -/
def begun? : SwitchboardStep → Option String
  | .beginOpening sessionId _ _ => some sessionId
  | _ => none

/-- `step.IsPossible earlier` means that the step can come after the earlier
ones. -/
def IsPossible (earlier : List SwitchboardStep) : SwitchboardStep → Prop
  | .beginOpening sessionId _ _ => sessionId ∉ earlier.filterMap begun?
  | .finishOpening sessionId _ =>
      sessionId ∈ earlier.filterMap begun? ∧
        ∀ published, .finishOpening sessionId published ∉ earlier
  | .beginClosing sessionId =>
      .finishOpening sessionId true ∈ earlier ∧
        .beginClosing sessionId ∉ earlier
  | .finishClosing sessionId _ =>
      .beginClosing sessionId ∈ earlier ∧
        ∀ published, .finishClosing sessionId published ∉ earlier
  | .transcript _ => True
  | .room _ => True

instance (earlier : List SwitchboardStep) :
    DecidablePred (IsPossible earlier)
  | .beginOpening sessionId _ _ =>
      inferInstanceAs (Decidable (sessionId ∉ earlier.filterMap begun?))
  | .finishOpening sessionId _ =>
      inferInstanceAs (Decidable (sessionId ∈ earlier.filterMap begun? ∧
        ∀ published, .finishOpening sessionId published ∉ earlier))
  | .beginClosing sessionId =>
      inferInstanceAs (Decidable (.finishOpening sessionId true ∈ earlier ∧
        .beginClosing sessionId ∉ earlier))
  | .finishClosing sessionId _ =>
      inferInstanceAs (Decidable (.beginClosing sessionId ∈ earlier ∧
        ∀ published, .finishClosing sessionId published ∉ earlier))
  | .transcript _ => inferInstanceAs (Decidable True)
  | .room _ => inferInstanceAs (Decidable True)

end SwitchboardStep

/-- `IsCourse steps` means that the steps can be taken one after another. -/
inductive IsCourse : List SwitchboardStep → Prop
  | nothing : IsCourse []
  | step {earlier : List SwitchboardStep} {step : SwitchboardStep} :
      IsCourse earlier →
      step.IsPossible earlier →
      IsCourse (earlier ++ [step])

def WasBegunFor (steps : List SwitchboardStep)
    (sessionId participant : String) : Prop :=
  ∃ settings, .beginOpening sessionId participant settings ∈ steps

/-- `IsBeingOpened steps sessionId participant` means that the opening of the
session for the participant has begun and is still being published. -/
def IsBeingOpened (steps : List SwitchboardStep)
    (sessionId participant : String) : Prop :=
  WasBegunFor steps sessionId participant ∧
    ∀ published, .finishOpening sessionId published ∉ steps

/-- `IsOpenFor steps sessionId participant` means that the session was opened
for the participant and has not been asked to close. -/
def IsOpenFor (steps : List SwitchboardStep)
    (sessionId participant : String) : Prop :=
  WasBegunFor steps sessionId participant ∧
    .finishOpening sessionId true ∈ steps ∧ .beginClosing sessionId ∉ steps

theorem wasBegunFor_append_singleton (steps : List SwitchboardStep)
    (step : SwitchboardStep) (sessionId participant : String) :
    WasBegunFor (steps ++ [step]) sessionId participant ↔
      WasBegunFor steps sessionId participant ∨
        ∃ settings, step = .beginOpening sessionId participant settings := by
  unfold WasBegunFor
  constructor
  · rintro ⟨settings, member⟩
    rcases List.mem_append.1 member with earlier | last
    · exact Or.inl ⟨settings, earlier⟩
    · exact Or.inr ⟨settings, (List.mem_singleton.1 last).symm⟩
  · rintro (⟨settings, earlier⟩ | ⟨settings, rfl⟩)
    · exact ⟨settings, List.mem_append_left _ earlier⟩
    · exact ⟨settings, by simp⟩

theorem begun_append_singleton (steps : List SwitchboardStep)
    (step : SwitchboardStep) :
    (steps ++ [step]).filterMap SwitchboardStep.begun? =
      steps.filterMap SwitchboardStep.begun? ++ step.begun?.toList := by
  rw [List.filterMap_append, List.filterMap_cons, List.filterMap_nil]
  cases step.begun? <;> rfl

theorem mem_begun_of_wasBegunFor {steps : List SwitchboardStep}
    {sessionId participant : String}
    (begun : WasBegunFor steps sessionId participant) :
    sessionId ∈ steps.filterMap SwitchboardStep.begun? := by
  obtain ⟨settings, member⟩ := begun
  exact List.mem_filterMap.2 ⟨_, member, rfl⟩

namespace IsCourse

variable {steps : List SwitchboardStep} {sessionId participant : String}

theorem earlier {step : SwitchboardStep}
    (course : IsCourse (steps ++ [step])) :
    IsCourse steps := by
  generalize whole : steps ++ [step] = all at course
  cases course with
  | nothing => simp at whole
  | step course possible =>
      obtain rfl := (List.append_inj' whole rfl).1
      exact course

/-- Whatever happens to a session happens after its opening has begun. -/
theorem mem_begun_of_finished (course : IsCourse steps) {published : Bool}
    (finished : .finishOpening sessionId published ∈ steps) :
    sessionId ∈ steps.filterMap SwitchboardStep.begun? := by
  induction course with
  | nothing => simp at finished
  | step course possible inductionHypothesis =>
      rw [begun_append_singleton]
      apply List.mem_append_left
      rcases List.mem_append.1 finished with earlier | last
      · exact inductionHypothesis earlier
      · obtain rfl := List.mem_singleton.1 last
        exact possible.1

theorem opened_of_closing (course : IsCourse steps)
    (closing : .beginClosing sessionId ∈ steps) :
    .finishOpening sessionId true ∈ steps := by
  induction course with
  | nothing => simp at closing
  | step course possible inductionHypothesis =>
      apply List.mem_append_left
      rcases List.mem_append.1 closing with earlier | last
      · exact inductionHypothesis earlier
      · obtain rfl := List.mem_singleton.1 last
        exact possible.1

/-- An opening that succeeded did not fail. -/
theorem not_failed_of_opened (course : IsCourse steps)
    (opened : .finishOpening sessionId true ∈ steps) :
    .finishOpening sessionId false ∉ steps := by
  induction course with
  | nothing => simp at opened
  | @step earlier step course possible inductionHypothesis =>
      intro failed
      rcases List.mem_append.1 opened with openedEarlier | openedLast
      · rcases List.mem_append.1 failed with failedEarlier | failedLast
        · exact inductionHypothesis openedEarlier failedEarlier
        · obtain rfl := List.mem_singleton.1 failedLast
          exact possible.2 true openedEarlier
      · obtain rfl := List.mem_singleton.1 openedLast
        have failedEarlier : .finishOpening sessionId false ∈ earlier :=
          (List.mem_append.1 failed).resolve_right (by simp)
        exact possible.2 false failedEarlier

theorem begun_nodup (course : IsCourse steps) :
    (steps.filterMap SwitchboardStep.begun?).Nodup := by
  induction course with
  | nothing => simp
  | @step earlier step course possible inductionHypothesis =>
      rw [begun_append_singleton]
      cases step with
      | beginOpening sessionId participant settings =>
          apply List.Nodup.append inductionHypothesis (List.nodup_singleton _)
          intro other member last
          obtain rfl := List.mem_singleton.1 last
          exact possible member
      | _ => simpa [SwitchboardStep.begun?] using inductionHypothesis

/-- A session has a route unless its opening has failed or it was asked to
close. -/
theorem isBeingOpened_or_isOpenFor_iff (course : IsCourse steps) :
    IsBeingOpened steps sessionId participant ∨
        IsOpenFor steps sessionId participant ↔
      WasBegunFor steps sessionId participant ∧
        .finishOpening sessionId false ∉ steps ∧
        .beginClosing sessionId ∉ steps := by
  constructor
  · rintro (⟨begun, unfinished⟩ | ⟨begun, opened, notClosing⟩)
    · refine ⟨begun, unfinished false, ?_⟩
      intro closing
      exact unfinished true (course.opened_of_closing closing)
    · exact ⟨begun, course.not_failed_of_opened opened, notClosing⟩
  · rintro ⟨begun, notFailed, notClosing⟩
    by_cases opened : .finishOpening sessionId true ∈ steps
    · exact Or.inr ⟨begun, opened, notClosing⟩
    · refine Or.inl ⟨begun, fun published => ?_⟩
      cases published with
      | false => exact notFailed
      | true => exact opened

end IsCourse

/-! ## Routes -/

namespace Switchboard

theorem after_append_singleton (room : String)
    (steps : List SwitchboardStep) (step : SwitchboardStep) :
    after room (steps ++ [step]) = (after room steps).perform step := by
  simp [after, List.foldl_append]

/-- A step changes the route of the session that it is about, and no other. -/
theorem get?_perform (switchboard : Switchboard) (step : SwitchboardStep)
    (sessionId : String) :
    (switchboard.perform step).routes.get? sessionId =
      match step with
      | .beginOpening other participant _ =>
          if sessionId = other then some participant
          else switchboard.routes.get? sessionId
      | .finishOpening other false =>
          if sessionId = other then none
          else switchboard.routes.get? sessionId
      | .beginClosing other =>
          if sessionId = other then none
          else switchboard.routes.get? sessionId
      | _ => switchboard.routes.get? sessionId := by
  cases step with
  | beginOpening other participant settings =>
      exact Table.get?_insert _ _ _ _
  | finishOpening other published =>
      cases published with
      | false => exact Table.get?_erase _ _ _
      | true => rfl
  | beginClosing other => exact Table.get?_erase _ _ _
  | finishClosing other published => rfl
  | transcript text => rfl
  | room text => rfl

theorem get?_after_of_not_begun (room : String)
    {steps : List SwitchboardStep} {sessionId : String}
    (notBegun : sessionId ∉ steps.filterMap SwitchboardStep.begun?) :
    (after room steps).routes.get? sessionId = none := by
  induction steps using List.reverseRecOn with
  | nil => rfl
  | append_singleton earlier step inductionHypothesis =>
      rw [begun_append_singleton, List.mem_append, not_or] at notBegun
      obtain ⟨notEarlier, notLast⟩ := notBegun
      have none := inductionHypothesis notEarlier
      rw [after_append_singleton, get?_perform]
      split
      · next other participant settings =>
          have different : sessionId ≠ other := by
            simpa [SwitchboardStep.begun?] using notLast
          rw [if_neg different, none]
      · split <;> simp [none]
      · split <;> simp [none]
      · exact none

/-- The routes after the steps of a course are those of the sessions that are
being opened or are open. -/
theorem get?_after_iff (room : String) {steps : List SwitchboardStep}
    (course : IsCourse steps) (sessionId participant : String) :
    (after room steps).routes.get? sessionId = some participant ↔
      WasBegunFor steps sessionId participant ∧
        .finishOpening sessionId false ∉ steps ∧
        .beginClosing sessionId ∉ steps := by
  induction course with
  | nothing => simp [after, new, Routes.none, WasBegunFor]
  | @step earlier step course possible inductionHypothesis =>
      rw [after_append_singleton, get?_perform,
        wasBegunFor_append_singleton]
      simp only [List.mem_append, List.mem_singleton, not_or]
      cases step with
      | beginOpening other participantToo settings =>
          by_cases same : sessionId = other
          · subst same
            -- Nothing can have happened before to a session that is new.
            have notBegun : ¬ WasBegunFor earlier sessionId participant :=
              fun begun => possible (mem_begun_of_wasBegunFor begun)
            have notFailed : .finishOpening sessionId false ∉ earlier :=
              fun failed => possible (course.mem_begun_of_finished failed)
            have notClosing : .beginClosing sessionId ∉ earlier :=
              fun closing => possible (course.mem_begun_of_finished
                (course.opened_of_closing closing))
            simp [notBegun, notFailed, notClosing]
          · simp [same, Ne.symm same, inductionHypothesis]
      | finishOpening other published =>
          cases published with
          | false =>
              by_cases same : sessionId = other
              · simp [same]
              · simp [same, inductionHypothesis]
          | true => simp [inductionHypothesis]
      | beginClosing other =>
          by_cases same : sessionId = other
          · simp [same]
          · simp [same, inductionHypothesis]
      | finishClosing other published => simp [inductionHypothesis]
      | transcript text => simp [inductionHypothesis]
      | room text => simp [inductionHypothesis]

/-- Two switchboards whose routes differ for one session at most stay so. -/
theorem erase_foldl_perform {switchboard other : Switchboard}
    {sessionId : String}
    (same :
      switchboard.routes.erase sessionId = other.routes.erase sessionId)
    (steps : List SwitchboardStep) :
    (steps.foldl perform switchboard).routes.erase sessionId =
      (steps.foldl perform other).routes.erase sessionId := by
  induction steps generalizing switchboard other with
  | nil => exact same
  | cons step later inductionHypothesis =>
      apply inductionHypothesis
      apply Table.ext_get?
      intro key
      have sameKey :
          (switchboard.routes.erase sessionId).get? key =
            (other.routes.erase sessionId).get? key := by
        rw [same]
      rw [Table.get?_erase, Table.get?_erase] at sameKey ⊢
      by_cases equal : key = sessionId
      · simp [equal]
      · simp only [if_neg equal] at sameKey ⊢
        rw [get?_perform, get?_perform]
        split <;> simp [sameKey]

/-- An opening that could not be published leaves the routes as if it had never
begun, whatever happened meanwhile. -/
theorem routes_after_failed_opening (room : String)
    {front middle : List SwitchboardStep} {sessionId participant : String}
    {settings : SpeechSettings}
    (course : IsCourse (front ++
      .beginOpening sessionId participant settings :: middle)) :
    ((after room (front ++
        .beginOpening sessionId participant settings :: middle)).perform
          (.finishOpening sessionId false)).routes =
      (after room (front ++ middle)).routes := by
  have distinct := course.begun_nodup
  have begunOnce : ∀ later, List.filterMap SwitchboardStep.begun?
      (.beginOpening sessionId participant settings :: later) =
        sessionId :: later.filterMap SwitchboardStep.begun? :=
    fun _ => rfl
  rw [List.filterMap_append, begunOnce, List.nodup_middle, List.nodup_cons,
    ← List.filterMap_append] at distinct
  have absent : (after room (front ++ middle)).routes.get? sessionId = none :=
    get?_after_of_not_begun room distinct.1
  have begun : (((after room front).perform
        (.beginOpening sessionId participant settings)).routes).erase
          sessionId =
      (after room front).routes.erase sessionId :=
    Table.insert_erase _ _ _
  calc ((after room (front ++
        .beginOpening sessionId participant settings :: middle)).perform
          (.finishOpening sessionId false)).routes
    _ = (after room (front ++
          .beginOpening sessionId participant settings :: middle)
            ).routes.erase sessionId := rfl
    _ = (after room (front ++ middle)).routes.erase sessionId := by
      simp only [after, List.foldl_append, List.foldl_cons]
      exact erase_foldl_perform begun middle
    _ = (after room (front ++ middle)).routes :=
      Table.erase_eq_self absent

/-! ## Transcripts -/

theorem receive?_eq_some_iff (routes : Routes) {text : String}
    {message : TranscriptMessage}
    (read : TranscriptMessage.read text = .ok message) (event : RoomEvent) :
    routes.receive? text = some event ↔
      message.isPartial = false ∧
        ∃ participant, routes.get? message.sessionId = some participant ∧
          event = .utterance participant message.text := by
  have received : routes.receive? text = routes.route? message := by
    rw [Routes.receive?, read]
    rfl
  rw [received, Routes.route?]
  cases message.isPartial with
  | true => simp
  | false =>
      simp only [Bool.false_eq_true, if_false, true_and,
        Option.map_eq_some_iff]
      constructor
      · rintro ⟨participant, known, rfl⟩
        exact ⟨participant, known, rfl⟩
      · rintro ⟨participant, known, rfl⟩
        exact ⟨participant, known, rfl⟩

/-- What the routes are after any steps, and what they make of the next
transcript message. A session has a route while it is being opened and as long
as it is open; an opening that fails has not changed the routes, and a session
that was asked to close has no route even if that could not be published. -/
theorem routes_follow_sessions (room : String)
    {steps : List SwitchboardStep} (course : IsCourse steps) :
    (∀ sessionId participant,
      (after room steps).routes.get? sessionId = some participant ↔
        IsBeingOpened steps sessionId participant ∨
          IsOpenFor steps sessionId participant) ∧
    (∀ front middle sessionId participant settings,
      steps = front ++
          .beginOpening sessionId participant settings :: middle ++
            [.finishOpening sessionId false] →
        (after room steps).routes =
          (after room (front ++ middle)).routes) ∧
    (∀ sessionId, .beginClosing sessionId ∈ steps →
      (after room steps).routes.get? sessionId = none) ∧
    (∀ text message, TranscriptMessage.read text = .ok message →
      ∃ heard : Option RoomEvent,
        (after room (steps ++ [.transcript text])).events =
          (after room steps).events ++ heard.toList ∧
        ∀ event, heard = some event ↔
          message.isPartial = false ∧
            ∃ participant,
              (after room steps).routes.get? message.sessionId =
                  some participant ∧
                event = .utterance participant message.text) := by
  refine ⟨?known, ?failed, ?closing, ?heard⟩
  case known =>
    intro sessionId participant
    rw [course.isBeingOpened_or_isOpenFor_iff]
    exact get?_after_iff room course sessionId participant
  case failed =>
    rintro front middle sessionId participant settings rfl
    rw [after_append_singleton]
    apply routes_after_failed_opening
    exact course.earlier
  case closing =>
    intro sessionId closing
    cases route : (after room steps).routes.get? sessionId with
    | none => rfl
    | some participant =>
        have notClosing :=
          ((get?_after_iff room course sessionId participant).1 route).2.2
        exact absurd closing notClosing
  case heard =>
    intro text message read
    refine ⟨(after room steps).routes.receive? text, ?_, ?_⟩
    · rw [after_append_singleton]
      rfl
    · exact receive?_eq_some_iff _ read

/-- Two sessions of one participant overlap with one that cannot be opened, and
the closing of the first cannot be published. -/
def overlapping : List SwitchboardStep :=
  [.beginOpening "s-1" "ada" (Provider.deepgram.settings "de"),
    .finishOpening "s-1" true,
    .beginOpening "s-2" "ada" (Provider.deepgram.settings "de"),
    .beginOpening "s-3" "bob" (Provider.deepgram.settings "de"),
    .finishOpening "s-2" true,
    .beginClosing "s-1",
    .finishClosing "s-1" false,
    .finishOpening "s-3" false]

def saidInSecond : String :=
  "\x7b\"session_id\": \"s-2\", \"text\": \"Hello\", " ++
    "\"partial\": false, \"timestamp\": \"\"\x7d"

theorem isCourse_overlapping : IsCourse overlapping :=
  .step (.step (.step (.step (.step (.step (.step (.step .nothing
    (by decide)) (by decide)) (by decide)) (by decide)) (by decide))
    (by decide)) (by decide)) (by decide)

theorem read_saidInSecond :
    TranscriptMessage.read saidInSecond =
      .ok ⟨"s-2", "Hello", false, "", none⟩ := by
  decide +kernel

theorem routes_follow_overlapping :
    IsCourse overlapping ∧
      (after "standup" overlapping).routes.get? "s-2" = some "ada" ∧
      (after "standup" overlapping).routes =
        (after "standup" (overlapping.take 3 ++
          (overlapping.drop 4).take 3)).routes ∧
      (after "standup" overlapping).routes.get? "s-1" = none ∧
      (after "standup"
          (overlapping ++ [.transcript saidInSecond])).events =
        [.utterance "ada" "Hello"] := by
  obtain ⟨known, failed, closing, heard⟩ :=
    routes_follow_sessions "standup" isCourse_overlapping
  have isOpen : IsOpenFor overlapping "s-2" "ada" :=
    ⟨⟨Provider.deepgram.settings "de", by decide⟩, by decide, by decide⟩
  have route := (known "s-2" "ada").2 (Or.inr isOpen)
  refine ⟨isCourse_overlapping, route, ?_, closing "s-1" (by decide), ?_⟩
  · exact failed (overlapping.take 3) ((overlapping.drop 4).take 3) "s-3"
      "bob" (Provider.deepgram.settings "de") rfl
  · obtain ⟨event, grown, exactly⟩ := heard _ _ read_saidInSecond
    obtain rfl := (exactly (.utterance "ada" "Hello")).2
      ⟨rfl, "ada", route, rfl⟩
    exact grown

end Switchboard

end MeetingLog.Wire
