import MeetingLog.Proofs.Meeting.Unwinding
import MeetingLog.Proofs.Rehearsal.Due

/-!
# Running what is due

A task that runs leaves only tasks behind that are due later, and once the
meeting is being closed the regular check does not run twice at one time. So
everything that is due runs, and then nothing is due before some time has gone
by.
-/

namespace MeetingLog

namespace Script

/-- `EndsClosings script` means that none of the closings hangs about which the
script says something. -/
def EndsClosings (script : Script) : Prop :=
  ∀ identity acts, script.closings.get? identity = some acts →
    ∀ act ∈ acts, act.hangs = false

end Script

/-- The next act is one that the script tells, or a plain one. -/
theorem takeAct_cases (acts : Table String (List Act)) (identity : String) :
    (∃ act others, acts.get? identity = some (act :: others) ∧
      takeAct acts identity = (act, acts.insert identity others)) ∨
    takeAct acts identity = (Act.plain, acts) := by
  unfold takeAct
  split
  · next act others found => exact .inl ⟨act, others, found, rfl⟩
  · exact .inr rfl

theorem Act.isBy_due {act : Act} {time : Nat}
    (takesTime : act.isInstant = false) :
    isBy time (act.due time) = false := by
  unfold isInstant at takesTime
  unfold due
  split
  · rfl
  · next ends =>
      have delayed : act.delay ≠ 0 := by simpa [ends] using takesTime
      simp only [isBy_some, decide_eq_false_iff_not]
      omega

namespace Rehearsal

variable {before after : Rehearsal}

/-- `Reacts before after` means that `after` may follow when something happens
in the other rehearsal without going on record and without taking time. Tasks
that are added are due later. -/
structure Reacts (before after : Rehearsal) : Prop where
  meeting : Meeting.Unwinds before.meeting after.meeting
  elapsed : after.elapsed = before.elapsed
  script : before.script.EndsClosings → after.script.EndsClosings
  tasks : ∃ added, after.tasks = before.tasks ++ added ∧
    ∀ task ∈ added, isBy before.elapsed task.due = false

/-- `Works before after` means in addition that the regular check does not
run. -/
structure Works (before after : Rehearsal) : Prop
    extends Reacts before after where
  idleLoop : after.idleLoop = before.idleLoop

namespace Works

theorem refl (rehearsal : Rehearsal) : Works rehearsal rehearsal where
  meeting := .refl _
  elapsed := rfl
  script ends := ends
  tasks := ⟨[], by simp⟩
  idleLoop := rfl

theorem trans {between : Rehearsal} (first : Works before between)
    (second : Works between after) : Works before after where
  meeting := first.meeting.trans second.meeting
  elapsed := second.elapsed.trans first.elapsed
  script ends := second.script (first.script ends)
  idleLoop := second.idleLoop.trans first.idleLoop
  tasks := by
    obtain ⟨earlier, same, earlierLater⟩ := first.tasks
    obtain ⟨added, sameToo, addedLater⟩ := second.tasks
    refine ⟨earlier ++ added, by rw [sameToo, same, List.append_assoc], ?_⟩
    intro task member
    rcases List.mem_append.1 member with member | member
    · exact earlierLater task member
    · rw [← first.elapsed]
      exact addedLater task member

theorem onMeeting {rehearsal : Rehearsal} {change : Meeting → Meeting}
    (unwinds : Meeting.Unwinds rehearsal.meeting (change rehearsal.meeting))
    (same : (change rehearsal.meeting).elapsed = rehearsal.meeting.elapsed) :
    Works rehearsal (rehearsal.onMeeting change) :=
  { refl rehearsal with meeting := unwinds, elapsed := same }

theorem takeClosing (rehearsal : Rehearsal) (identity : String) :
    Works rehearsal (rehearsal.takeClosing identity).2 :=
  { refl rehearsal with
    script := by
      intro ends
      unfold Rehearsal.takeClosing
      rcases takeAct_cases rehearsal.script.closings identity with
        ⟨act, others, found, taken⟩ | taken
      · simp only [taken]
        intro other acts foundToo
        simp only [Table.get?_insert] at foundToo
        split at foundToo
        · cases foundToo
          intro later member
          exact ends identity _ found later (List.mem_cons_of_mem _ member)
        · exact ends other acts foundToo
      · simp only [taken]
        exact ends }

theorem addTask (rehearsal : Rehearsal) (work : Work) {act : Act}
    (takesTime : act.isInstant = false) :
    Works rehearsal
      (rehearsal.addTask work (act.due rehearsal.elapsed)) :=
  { refl rehearsal with
    tasks := by
      refine
        ⟨[⟨work, act.due rehearsal.elapsed, rehearsal.nextTurn⟩], rfl, ?_⟩
      intro task member
      rw [List.mem_singleton.1 member]
      exact Act.isBy_due takesTime }

theorem finishClosing (rehearsal : Rehearsal) (farewell : Farewell)
    (fails : Bool) :
    Works rehearsal (rehearsal.finishClosing farewell fails) := by
  cases fails with
  | false => exact onMeeting (.finishClosing _ _) rfl
  | true => exact onMeeting (.noteClosingFailure _ _ _) rfl

/-- A session is asked to close, and it is told how that will go. -/
theorem askToClose (rehearsal : Rehearsal) (farewell : Farewell) :
    Works rehearsal
      ((rehearsal.onMeeting fun meeting =>
        meeting.beginClosing farewell).takeClosing farewell.identity).2 := by
  have begun : Works rehearsal
      (rehearsal.onMeeting fun meeting => meeting.beginClosing farewell) :=
    onMeeting (.beginClosing _ _) rfl
  exact begun.trans (takeClosing _ farewell.identity)

theorem beginClosing (rehearsal : Rehearsal) (farewell : Farewell) :
    Works rehearsal (rehearsal.beginClosing farewell) := by
  unfold Rehearsal.beginClosing
  have asked := askToClose rehearsal farewell
  simp only
  split
  · exact asked.trans (finishClosing _ _ _)
  · next takesTime =>
      exact asked.trans (addTask _ _ (by simpa using takesTime))

theorem beginGroup (rehearsal : Rehearsal) (farewells : List Farewell) :
    Works rehearsal (rehearsal.beginGroup farewells).1 := by
  induction farewells generalizing rehearsal with
  | nil => exact refl rehearsal
  | cons farewell others inductionHypothesis =>
      unfold Rehearsal.beginGroup
      refine (askToClose rehearsal farewell).trans
        (Works.trans ?_ (inductionHypothesis _))
      split
      · exact onMeeting (.finishClosing _ _) rfl
      · exact refl _

theorem advanceGroup (rehearsal : Rehearsal) (group : List GroupClosing) :
    Works rehearsal (rehearsal.advanceGroup group).1 := by
  induction group generalizing rehearsal with
  | nil => exact refl rehearsal
  | cons closing others inductionHypothesis =>
      unfold Rehearsal.advanceGroup
      split
      · refine Works.trans ?_ (inductionHypothesis _)
        split
        · exact refl _
        · exact onMeeting (.finishClosing _ _) rfl
      · exact inductionHypothesis rehearsal

theorem noteFailures (rehearsal : Rehearsal) (group : List GroupClosing) :
    Works rehearsal (rehearsal.noteFailures group) := by
  unfold Rehearsal.noteFailures
  induction groupFailures group generalizing rehearsal with
  | nil => exact refl rehearsal
  | cons farewell others inductionHypothesis =>
      exact (finishClosing rehearsal farewell true).trans
        (inductionHypothesis _)

theorem beginClosings (rehearsal : Rehearsal) (farewells : List Farewell) :
    Works rehearsal (farewells.foldl Rehearsal.beginClosing rehearsal) := by
  induction farewells generalizing rehearsal with
  | nil => exact refl rehearsal
  | cons farewell others inductionHypothesis =>
      exact (beginClosing rehearsal farewell).trans (inductionHypothesis _)

theorem finishOpening (rehearsal : Rehearsal) (opening : Opening)
    (fails : Bool) :
    Works rehearsal (rehearsal.finishOpening opening fails) := by
  unfold Rehearsal.finishOpening
  refine Works.trans ?_ (beginClosings _ _)
  exact { refl rehearsal with
    meeting := Meeting.Unwinds.finishOpening _ _ _
    elapsed := Meeting.elapsed_finishOpening _ _ _ }

theorem beginOpening (rehearsal : Rehearsal) (opening : Opening) :
    Works rehearsal (rehearsal.beginOpening opening) := by
  unfold Rehearsal.beginOpening
  have begun : Works rehearsal
      (rehearsal.onMeeting fun meeting => meeting.beginOpening opening) :=
    onMeeting (.beginOpening _ _) rfl
  have taken (openings : Table String (List Act)) : Works rehearsal
      { rehearsal.onMeeting fun meeting => meeting.beginOpening opening with
        script := { rehearsal.script with openings := openings } } :=
    { begun with }
  simp only
  split
  · exact (taken _).trans (finishOpening _ _ _)
  · next takesTime =>
      exact (taken _).trans (addTask _ _ (by simpa using takesTime))

theorem runWork (rehearsal : Rehearsal) (work : Work) :
    Works rehearsal (rehearsal.runWork work) := by
  cases work with
  | beginOpening opening => exact beginOpening rehearsal opening
  | finishOpening opening fails =>
      exact finishOpening rehearsal opening fails
  | beginClosing farewell => exact beginClosing rehearsal farewell
  | finishClosing farewell fails =>
      exact finishClosing rehearsal farewell fails

theorem runTask (rehearsal : Rehearsal) (task : Task) :
    Works
      { rehearsal with
        tasks := rehearsal.tasks.filter fun other =>
          other.turn ≠ task.turn }
      (rehearsal.runTask task) :=
  runWork _ task.work

end Works

/-! ## The regular check once the meeting is being closed -/

theorem advanceGroup_eq (rehearsal : Rehearsal) (group : List GroupClosing) :
    (rehearsal.advanceGroup group).2 =
      group.map (GroupClosing.lookAt rehearsal.elapsed) := by
  induction group generalizing rehearsal with
  | nil => rfl
  | cons closing others inductionHypothesis =>
      have noTime :
          (if closing.fails then rehearsal
            else
              rehearsal.onMeeting fun meeting =>
                meeting.finishClosing closing.farewell).elapsed =
            rehearsal.elapsed := by
        split <;> rfl
      rw [advanceGroup, isDue_eq]
      by_cases ends :
          (!closing.isDone && isBy rehearsal.elapsed closing.due) = true
      · have hasEnded : closing.isOver rehearsal.elapsed = true := by
          rw [Bool.and_eq_true] at ends
          simp [GroupClosing.isOver, ends.2]
        rw [if_pos ends]
        simp only [inductionHypothesis, noTime, List.map_cons]
        rw [GroupClosing.lookAt, hasEnded]
      · have same : closing.isOver rehearsal.elapsed = closing.isDone := by
          cases isDone : closing.isDone with
          | true => simp [GroupClosing.isOver, isDone]
          | false => simpa [GroupClosing.isOver, isDone] using ends
        rw [if_neg ends]
        simp only [inductionHypothesis, List.map_cons]
        rw [GroupClosing.lookAt, same]

/-- Once a meeting is being closed the regular check does not look at the group
any more. -/
theorem runLoop_of_isClosed {rehearsal : Rehearsal}
    (isClosed : rehearsal.meeting.isClosed = true) :
    Reacts rehearsal rehearsal.runLoop ∧
      rehearsal.runLoop.idleLoop =
        rehearsal.idleLoop.goOn rehearsal.elapsed := by
  have hasEnded {reached : Rehearsal} (reacts : Reacts rehearsal reached) :
      Reacts rehearsal reached.sleepOrEnd ∧
        reached.sleepOrEnd.idleLoop = .ended := by
    unfold sleepOrEnd
    rw [if_pos (reacts.meeting.closed isClosed)]
    refine ⟨?_, rfl⟩
    exact { reacts with meeting := reacts.meeting.trans (.note _ _) }
  unfold runLoop
  cases loop : rehearsal.idleLoop with
  | absent => exact ⟨(Works.refl rehearsal).toReacts, loop⟩
  | ended => exact ⟨(Works.refl rehearsal).toReacts, loop⟩
  | sleeping due turn =>
      simp only
      rw [if_pos isClosed]
      exact hasEnded (Works.refl rehearsal).toReacts
  | closing group turn =>
      have advanced := Works.advanceGroup rehearsal group
      simp only
      rw [advanceGroup_eq, isGroupDone_lookAt, IdleLoop.goOn]
      split
      · exact hasEnded (advanced.trans (Works.noteFailures _ _)).toReacts
      · exact ⟨{ advanced.toReacts with }, rfl⟩

/-! ## Everything that is due -/

def dueTasks (rehearsal : Rehearsal) : List Task :=
  rehearsal.tasks.filter fun task => isBy rehearsal.elapsed task.due

theorem Reacts.dueTasks (reacts : Reacts before after) :
    after.dueTasks = before.dueTasks := by
  obtain ⟨added, same, later⟩ := reacts.tasks
  have none : added.filter (fun task => isBy before.elapsed task.due) = [] := by
    rw [List.filter_eq_nil_iff]
    intro task member
    rw [later task member]
    exact Bool.false_ne_true
  rw [Rehearsal.dueTasks, Rehearsal.dueTasks, same, reacts.elapsed,
    List.filter_append, none, List.append_nil]

/-- A task that was due runs and is over. -/
theorem dueTasks_runTask {rehearsal : Rehearsal} {task : Task}
    (member : task ∈ rehearsal.tasks)
    (isNow : isBy rehearsal.elapsed task.due = true) :
    (rehearsal.runTask task).dueTasks.length < rehearsal.dueTasks.length := by
  rw [(Works.runTask rehearsal task).dueTasks, dueTasks, List.filter_filter]
  simp only [Bool.and_comm]
  rw [← List.filter_filter]
  apply List.length_filter_lt_length_iff_exists.2
  exact ⟨task, List.mem_filter.2 ⟨member, isNow⟩, by simp⟩

/-- How much is due. -/
def urgency (rehearsal : Rehearsal) : Nat :=
  rehearsal.dueTasks.length +
    if rehearsal.idleLoop.isDueBy rehearsal.elapsed then 1 else 0

theorem urgency_le (rehearsal : Rehearsal) :
    rehearsal.urgency ≤ 3 * rehearsal.tasks.length + 4 := by
  have fewer : rehearsal.dueTasks.length ≤ rehearsal.tasks.length :=
    List.length_filter_le _ _
  unfold urgency
  split <;> omega

theorem urgency_runFirst? {rehearsal next : Rehearsal}
    (isClosed : rehearsal.meeting.isClosed = true)
    (ran : rehearsal.runFirst? = some next) :
    next.urgency < rehearsal.urgency := by
  -- A task is taken away, and the check is not due again before some time has
  -- gone by.
  rcases runFirst?_some ran with ⟨task, member, isNow, rfl⟩ | ⟨isNow, rfl⟩
  · have fewer := dueTasks_runTask member isNow
    have works := Works.runTask rehearsal task
    have sameLoop :
        (rehearsal.runTask task).idleLoop = rehearsal.idleLoop :=
      works.idleLoop
    have sameTime : (rehearsal.runTask task).elapsed = rehearsal.elapsed :=
      works.elapsed
    unfold urgency
    rw [sameLoop, sameTime]
    omega
  · obtain ⟨reacts, ran⟩ := runLoop_of_isClosed isClosed
    unfold urgency
    rw [reacts.dueTasks, reacts.elapsed, isNow, ran,
      IdleLoop.isDueBy_goOn]
    simp

variable {rehearsal next : Rehearsal}

/-- What holds of a rehearsal still holds after everything that is due has run,
if it holds after the first thing that runs. -/
theorem settle_induction {motive : Rehearsal → Prop}
    (turn : ∀ {rehearsal next : Rehearsal}, motive rehearsal →
      rehearsal.runFirst? = some next → motive next)
    (held : motive rehearsal) : motive rehearsal.settle := by
  unfold settle
  generalize 3 * rehearsal.tasks.length + 4 = bound
  induction bound generalizing rehearsal with
  | zero => exact held
  | succ bound inductionHypothesis =>
      unfold settleWithin
      split
      · exact held
      · next ran => exact inductionHypothesis (turn held ran)

/-- While a meeting is being closed, what runs takes no time. -/
theorem runFirst?_of_isClosed
    (isClosed : rehearsal.meeting.isClosed = true)
    (ran : rehearsal.runFirst? = some next) :
    next.meeting.isClosed = true ∧ next.elapsed = rehearsal.elapsed := by
  rcases runFirst?_some ran with ⟨task, -, -, rfl⟩ | ⟨-, rfl⟩
  · have works := Works.runTask rehearsal task
    exact ⟨works.meeting.closed isClosed, works.elapsed⟩
  · obtain ⟨reacts, -⟩ := runLoop_of_isClosed isClosed
    exact ⟨reacts.meeting.closed isClosed, reacts.elapsed⟩

theorem settle_of_isClosed
    (isClosed : rehearsal.meeting.isClosed = true) :
    rehearsal.settle.meeting.isClosed = true ∧
      rehearsal.settle.elapsed = rehearsal.elapsed := by
  refine settle_induction
    (motive := fun reached => reached.meeting.isClosed = true ∧
      reached.elapsed = rehearsal.elapsed) ?_ ⟨isClosed, rfl⟩
  intro reached next held ran
  obtain ⟨stillClosed, sameTime⟩ := runFirst?_of_isClosed held.1 ran
  exact ⟨stillClosed, sameTime.trans held.2⟩

theorem runFirst?_settleWithin {bound : Nat}
    (isClosed : rehearsal.meeting.isClosed = true)
    (enough : rehearsal.urgency ≤ bound) :
    (settleWithin bound rehearsal).runFirst? = none := by
  induction bound generalizing rehearsal with
  | zero =>
      cases ran : rehearsal.runFirst? with
      | none => exact ran
      | some next =>
          have fewer := urgency_runFirst? isClosed ran
          omega
  | succ bound inductionHypothesis =>
      unfold settleWithin
      split
      · next drained => exact drained
      · next next ran =>
          have fewer := urgency_runFirst? isClosed ran
          obtain ⟨stillClosed, -⟩ := runFirst?_of_isClosed isClosed ran
          exact inductionHypothesis stillClosed (by omega)

/-- Once everything that was due has run, nothing is due for now. -/
theorem nextDue_settle (isClosed : rehearsal.meeting.isClosed = true) :
    isBy rehearsal.elapsed rehearsal.settle.nextDue = false := by
  have drained : rehearsal.settle.runFirst? = none :=
    runFirst?_settleWithin isClosed rehearsal.urgency_le
  rw [← (settle_of_isClosed isClosed).2]
  exact runFirst?_none drained

end Rehearsal

end MeetingLog
