import MeetingLog.Proofs.Rehearsal.Settling

/-!
# Waiting

A wait goes from one due time to the next. It comes to its end by the time when
what it waits for has ended, and does not depend on a limit that lies later; if
what it waits for never ends, no limit is late enough.
-/

namespace MeetingLog.Rehearsal

variable {rehearsal : Rehearsal}

/-! ## What lasts -/

/-- `Lasts motive` means that what holds of a rehearsal goes on to hold
whatever happens in it while time goes by. -/
structure Lasts (motive : Rehearsal → Prop) : Prop where
  works : ∀ {before after : Rehearsal}, Works before after →
    motive before → motive after
  tasks : ∀ {rehearsal : Rehearsal} (tasks : List Task),
    motive rehearsal → motive { rehearsal with tasks := tasks }
  runLoop : ∀ {rehearsal : Rehearsal}, motive rehearsal →
    motive rehearsal.runLoop
  moveTo : ∀ {rehearsal : Rehearsal} (time : Nat), motive rehearsal →
    motive (rehearsal.moveTo time)

namespace Lasts

variable {motive : Rehearsal → Prop}

theorem runFirst? (lasts : Lasts motive) {next : Rehearsal}
    (held : motive rehearsal) (ran : rehearsal.runFirst? = some next) :
    motive next := by
  rcases runFirst?_some ran with ⟨task, -, -, rfl⟩ | ⟨-, rfl⟩
  · exact lasts.works (Works.runTask rehearsal task) (lasts.tasks _ held)
  · exact lasts.runLoop held

theorem settle (lasts : Lasts motive) (held : motive rehearsal) :
    motive rehearsal.settle :=
  settle_induction lasts.runFirst? held

theorem waitFor (lasts : Lasts motive) (held : motive rehearsal)
    (isReady : Rehearsal → Bool) (limit : Nat) :
    motive (rehearsal.waitFor isReady limit).1 := by
  unfold Rehearsal.waitFor
  generalize limit - rehearsal.elapsed + 1 = bound
  induction bound generalizing rehearsal with
  | zero => exact lasts.moveTo limit held
  | succ bound inductionHypothesis =>
      have settled := lasts.settle held
      unfold waitWithin
      simp only
      split
      · exact settled
      · split
        · exact lasts.moveTo limit settled
        · split
          · exact inductionHypothesis (lasts.moveTo _ settled)
          · exact lasts.moveTo limit settled

theorem waitGroup (lasts : Lasts motive) (held : motive rehearsal)
    (group : List GroupClosing) (limit : Nat) :
    motive (rehearsal.waitGroup limit group).1 := by
  unfold Rehearsal.waitGroup
  generalize limit - rehearsal.elapsed + 1 = bound
  induction bound generalizing rehearsal group with
  | zero => exact lasts.moveTo limit held
  | succ bound inductionHypothesis =>
      have advanced := lasts.works (Works.advanceGroup rehearsal group) held
      have settled := lasts.settle advanced
      unfold waitGroupWithin
      simp only
      split
      · exact advanced
      · split
        · exact lasts.moveTo limit settled
        · split
          · exact inductionHypothesis (lasts.moveTo _ settled) _
          · exact lasts.moveTo limit settled

theorem onMeeting (lasts : Lasts motive) (held : motive rehearsal)
    {change : Meeting → Meeting}
    (unwinds : Meeting.Unwinds rehearsal.meeting (change rehearsal.meeting))
    (same : (change rehearsal.meeting).elapsed = rehearsal.meeting.elapsed) :
    motive (rehearsal.onMeeting change) :=
  lasts.works (.onMeeting unwinds same) held

theorem dropTasks (lasts : Lasts motive) (held : motive rehearsal) :
    motive rehearsal.dropTasks :=
  lasts.tasks [] (lasts.onMeeting held (.abandonPending _) rfl)

theorem awaitTasks (lasts : Lasts motive) (held : motive rehearsal)
    (limit : Nat) : motive (rehearsal.awaitTasks limit).1 := by
  have waited (time : Nat) :=
    lasts.waitFor held (fun rehearsal => rehearsal.tasks.isEmpty) time
  unfold Rehearsal.awaitTasks
  split
  · exact held
  · simp only
    split
    · have graced :=
        waited (rehearsal.elapsed + rehearsal.meeting.options.grace)
      split
      · next ended => rwa [ended] at graced
      · next late =>
          rw [late] at graced
          exact lasts.dropTasks (lasts.onMeeting graced (.note _ _) rfl)
    · have limited := waited limit
      split
      · next ended => rwa [ended] at limited
      · next late =>
          rw [late] at limited
          exact lasts.dropTasks limited

theorem awaitLoop (lasts : Lasts motive)
    (wakes : ∀ {rehearsal : Rehearsal}, motive rehearsal →
      motive rehearsal.wakeLoop)
    (held : motive rehearsal) (limit : Nat) :
    motive (rehearsal.awaitLoop limit).1 := by
  unfold Rehearsal.awaitLoop
  split
  · exact lasts.waitFor (wakes held) _ _
  · exact held

theorem unwind (lasts : Lasts motive)
    (wakes : ∀ {rehearsal : Rehearsal}, motive rehearsal →
      motive rehearsal.wakeLoop)
    (stopped : motive (rehearsal.onMeeting Meeting.stopListening))
    (limit : Nat) : motive (rehearsal.unwind limit).1 := by
  have awaited := lasts.awaitLoop wakes stopped limit
  unfold Rehearsal.unwind
  split
  · next hung => rwa [hung] at awaited
  · next hasEnded =>
      rw [hasEnded] at awaited
      exact lasts.awaitTasks awaited limit

theorem closeTogether (lasts : Lasts motive) {farewells : List Farewell}
    (begun : motive (rehearsal.beginGroup farewells).1) (limit : Nat) :
    motive (rehearsal.closeTogether limit farewells).1 := by
  have waited :=
    lasts.waitGroup begun (rehearsal.beginGroup farewells).2 limit
  unfold Rehearsal.closeTogether
  simp only
  split
  · next ended =>
      rw [ended] at waited
      exact lasts.works (Works.noteFailures _ _) waited
  · next hung => rwa [hung] at waited

end Lasts

/-- What goes on to hold of the regular check when it runs lasts, once the
meeting is being closed. -/
theorem lasts_idleLoop (held : IdleLoop → Prop)
    (goesOn : ∀ (time : Nat) (loop : IdleLoop), held loop →
      held (loop.goOn time)) :
    Lasts fun rehearsal =>
      rehearsal.meeting.isClosed = true ∧ held rehearsal.idleLoop where
  works := by
    intro before after works before
    rw [works.idleLoop]
    exact ⟨works.meeting.closed before.1, before.2⟩
  tasks _ held := held
  runLoop := by
    intro rehearsal before
    obtain ⟨reacts, ran⟩ := runLoop_of_isClosed before.1
    rw [ran]
    exact ⟨reacts.meeting.closed before.1, goesOn _ _ before.2⟩
  moveTo _ held := held

/-- `Unwinds before after` means that `after` may follow when openings and
closings begin and end while time goes by. -/
structure Unwinds (before after : Rehearsal) : Prop where
  meeting : Meeting.Unwinds before.meeting after.meeting
  script : before.script.EndsClosings → after.script.EndsClosings

namespace Unwinds

variable {before after : Rehearsal}

theorem refl (rehearsal : Rehearsal) : Unwinds rehearsal rehearsal :=
  ⟨.refl _, fun ends => ends⟩

theorem trans {between : Rehearsal} (first : Unwinds before between)
    (second : Unwinds between after) : Unwinds before after :=
  ⟨first.meeting.trans second.meeting,
    fun ends => second.script (first.script ends)⟩

theorem moveTo (rehearsal : Rehearsal) (time : Nat) :
    Unwinds rehearsal (rehearsal.moveTo time) :=
  ⟨.tick _ _, fun ends => ends⟩

end Unwinds

theorem Reacts.unwinds {before after : Rehearsal}
    (reacts : Reacts before after) : Unwinds before after :=
  ⟨reacts.meeting, reacts.script⟩

theorem lasts_unwinds (begun : Rehearsal) :
    Lasts fun rehearsal =>
      rehearsal.meeting.isClosed = true ∧ Unwinds begun rehearsal where
  works works held :=
    ⟨works.meeting.closed held.1, held.2.trans works.toReacts.unwinds⟩
  tasks _ held := ⟨held.1, held.2.trans ⟨.refl _, fun ends => ends⟩⟩
  runLoop := by
    intro rehearsal held
    obtain ⟨reacts, -⟩ := runLoop_of_isClosed held.1
    exact ⟨reacts.meeting.closed held.1, held.2.trans reacts.unwinds⟩
  moveTo time held := ⟨held.1, held.2.trans (.moveTo _ time)⟩

/-! ## Limits -/

/-- A wait that has come to its end does not depend on its limit. -/
theorem waitFor_mono {isReady : Rehearsal → Bool} {limit later : Nat}
    {reached : Rehearsal}
    (ended : rehearsal.waitFor isReady limit = (reached, true))
    (isLater : limit ≤ later) :
    rehearsal.waitFor isReady later = (reached, true) := by
  have general : ∀ {bound more : Nat} {rehearsal : Rehearsal},
      waitWithin isReady limit bound rehearsal = (reached, true) →
      bound ≤ more →
      waitWithin isReady later more rehearsal = (reached, true) := by
    intro bound
    induction bound with
    | zero =>
        intro more rehearsal ended
        cases ended
    | succ bound inductionHypothesis =>
        intro more rehearsal ended enough
        obtain ⟨more, rfl⟩ := Nat.exists_eq_add_of_le' enough
        rw [← Nat.add_assoc]
        unfold waitWithin at ended ⊢
        simp only at ended ⊢
        split at ended
        · next ready =>
            rw [if_pos ready]
            exact ended
        · next notReady =>
            rw [if_neg notReady]
            split at ended
            · cases ended
            · next due found =>
                split at ended
                · next before =>
                    rw [if_pos (by omega)]
                    exact inductionHypothesis ended (by omega)
                · cases ended
  exact general ended (by omega)

/-- A wait for a group of closings that has come to its end does not depend on
its limit. -/
theorem waitGroup_mono {group ended : List GroupClosing} {limit later : Nat}
    {reached : Rehearsal}
    (done : rehearsal.waitGroup limit group = (reached, ended, true))
    (isLater : limit ≤ later) :
    rehearsal.waitGroup later group = (reached, ended, true) := by
  have general : ∀ {bound more : Nat} {rehearsal : Rehearsal}
      {group : List GroupClosing},
      waitGroupWithin limit bound rehearsal group = (reached, ended, true) →
      bound ≤ more →
      waitGroupWithin later more rehearsal group =
        (reached, ended, true) := by
    intro bound
    induction bound with
    | zero =>
        intro more rehearsal group done
        cases done
    | succ bound inductionHypothesis =>
        intro more rehearsal group done enough
        obtain ⟨more, rfl⟩ := Nat.exists_eq_add_of_le' enough
        rw [← Nat.add_assoc]
        unfold waitGroupWithin at done ⊢
        simp only at done ⊢
        split at done
        · next hasEnded =>
            rw [if_pos hasEnded]
            exact done
        · next goesOn =>
            rw [if_neg goesOn]
            split at done
            · cases done
            · next due found =>
                split at done
                · next before =>
                    rw [if_pos (by omega)]
                    exact inductionHypothesis done (by omega)
                · cases done
  exact general done (by omega)

/-! ## Waits that come to their ends -/

/-- What is due by a time, but not for now, is due in between. -/
theorem exists_due_between {now time : Nat} {due : Option Nat}
    (notYet : isBy now due = false) (inTime : isBy time due = true) :
    ∃ moment, due = some moment ∧ now < moment ∧ moment ≤ time := by
  obtain ⟨moment, isEarly, rfl⟩ := isBy_eq_true_iff.1 inTime
  refine ⟨moment, rfl, ?_, isEarly⟩
  simpa using notYet

theorem elapsed_moveTo (rehearsal : Rehearsal) (time : Nat) :
    (rehearsal.moveTo time).elapsed = max rehearsal.elapsed time := by
  show rehearsal.elapsed + (time - rehearsal.elapsed) = _
  omega

theorem isLoopOver_eq (rehearsal : Rehearsal) :
    rehearsal.isLoopOver = rehearsal.idleLoop.isOver := by
  unfold isLoopOver
  cases rehearsal.idleLoop <;> rfl

/-- The wait for the end of the regular check comes to its end by the time when
the regular check does. -/
theorem waitFor_isLoopOver {time limit : Nat}
    (isClosed : rehearsal.meeting.isClosed = true)
    (waits : rehearsal.idleLoop.waits = true)
    (ends : rehearsal.idleLoop.endsBy time = true)
    (isEarly : rehearsal.elapsed ≤ time) (isBefore : time < limit) :
    ∃ reached, rehearsal.waitFor isLoopOver limit = (reached, true) ∧
      reached.elapsed ≤ time := by
  have lasts := lasts_idleLoop
    (fun loop => loop.waits = true ∧ loop.endsBy time = true)
    fun now loop held =>
      ⟨IdleLoop.waits_goOn now held.1, IdleLoop.endsBy_goOn now held.2⟩
  have general : ∀ {bound : Nat} {rehearsal : Rehearsal},
      (rehearsal.meeting.isClosed = true ∧
        rehearsal.idleLoop.waits = true ∧
          rehearsal.idleLoop.endsBy time = true) →
      rehearsal.elapsed ≤ time → limit - rehearsal.elapsed < bound →
      ∃ reached, waitWithin isLoopOver limit bound rehearsal =
        (reached, true) ∧ reached.elapsed ≤ time := by
    intro bound
    induction bound with
    | zero =>
        intro rehearsal _ _ enough
        omega
    | succ bound inductionHypothesis =>
        intro rehearsal held isEarly enough
        obtain ⟨stillClosed, stillWaits, stillEnds⟩ := lasts.settle held
        have sameTime := (settle_of_isClosed held.1).2
        unfold waitWithin
        simp only
        split
        · exact ⟨_, rfl, by omega⟩
        · next goesOn =>
            -- The check is still due, so each turn takes some time, but never
            -- more than is left.
            have isDue : isBy time rehearsal.settle.nextDue = true := by
              rw [isBy_nextDue, IdleLoop.isDueBy_of_endsBy stillWaits
                stillEnds (by simpa [isLoopOver_eq] using goesOn),
                Bool.or_true]
            obtain ⟨due, found, isLater, inTime⟩ :=
              exists_due_between (nextDue_settle held.1) isDue
            have moved := elapsed_moveTo rehearsal.settle due
            rw [found]
            simp only
            rw [if_pos (by omega)]
            exact inductionHypothesis
              (lasts.moveTo due ⟨stillClosed, stillWaits, stillEnds⟩)
              (by omega) (by omega)
  exact general ⟨isClosed, waits, ends⟩ isEarly (by omega)

/-- If the regular check waits for a closing that never comes to its end, the
wait for its end does not come to an end either. -/
theorem waitFor_isLoopOver_of_isStuck
    (isClosed : rehearsal.meeting.isClosed = true)
    (stuck : rehearsal.idleLoop.isStuck = true) (limit : Nat) :
    (rehearsal.waitFor isLoopOver limit).2 = false := by
  have lasts := lasts_idleLoop (fun loop => loop.isStuck = true)
    fun now loop => IdleLoop.isStuck_goOn now
  unfold waitFor
  generalize limit - rehearsal.elapsed + 1 = bound
  induction bound generalizing rehearsal with
  | zero => rfl
  | succ bound inductionHypothesis =>
      have settled := lasts.settle ⟨isClosed, stuck⟩
      have goesOn : ¬ rehearsal.settle.isLoopOver = true := by
        rw [isLoopOver_eq, IdleLoop.isOver_of_isStuck settled.2]
        exact Bool.false_ne_true
      unfold waitWithin
      simp only
      rw [if_neg goesOn]
      split
      · rfl
      · split
        · next due _ _ =>
            have moved := lasts.moveTo due settled
            exact inductionHypothesis moved.1 moved.2
        · rfl

theorem advanceGroup_endsBy (rehearsal : Rehearsal)
    {group : List GroupClosing} {time : Nat}
    (ends : group.all (GroupClosing.isOver time) = true) :
    (rehearsal.advanceGroup group).2.all (GroupClosing.isOver time) =
      true := by
  rw [advanceGroup_eq, List.all_map]
  rw [List.all_eq_true] at ends ⊢
  intro closing member
  exact GroupClosing.isOver_lookAt (ends closing member)

/-- Right after a group of closings was looked at none of them is due. -/
theorem groupDue_advanceGroup (rehearsal : Rehearsal)
    (group : List GroupClosing) :
    isBy rehearsal.elapsed (groupDue (rehearsal.advanceGroup group).2) =
      false := by
  rw [isBy_groupDue, advanceGroup_eq, List.any_map, List.any_eq_false]
  intro closing _
  cases closing.isDone <;> simp [GroupClosing.lookAt, GroupClosing.isOver]

/-- The wait for a group of closings comes to its end by the time when all of
them do. -/
theorem waitGroup_ends {group : List GroupClosing} {time limit : Nat}
    (isClosed : rehearsal.meeting.isClosed = true)
    (ends : group.all (GroupClosing.isOver time) = true)
    (isBefore : time < limit) :
    ∃ reached ended,
      rehearsal.waitGroup limit group = (reached, ended, true) := by
  have lasts := lasts_idleLoop (fun _ => True) fun _ _ _ => trivial
  have general : ∀ {bound : Nat} {rehearsal : Rehearsal}
      {group : List GroupClosing},
      rehearsal.meeting.isClosed = true →
      group.all (GroupClosing.isOver time) = true →
      limit - rehearsal.elapsed < bound →
      ∃ reached ended,
        waitGroupWithin limit bound rehearsal group =
          (reached, ended, true) := by
    intro bound
    induction bound with
    | zero =>
        intro rehearsal group _ _ enough
        omega
    | succ bound inductionHypothesis =>
        intro rehearsal group isClosed ends enough
        have advanced := Works.advanceGroup rehearsal group
        have isStillClosed := advanced.meeting.closed isClosed
        have sameTime := (settle_of_isClosed isStillClosed).2
        have stillEnds := advanceGroup_endsBy rehearsal ends
        unfold waitGroupWithin
        simp only
        split
        · exact ⟨_, _, rfl⟩
        · next goesOn =>
            -- One of the closings is due later, so this turn takes some time,
            -- too. The tasks may be due before it, but not now.
            have groupIsDue := any_of_not_isGroupDone
              (by simpa using goesOn) stillEnds
            rw [← isBy_groupDue] at groupIsDue
            have notYet : isBy rehearsal.elapsed
                (earlier (rehearsal.advanceGroup group).1.settle.nextDue
                  (groupDue (rehearsal.advanceGroup group).2)) = false := by
              rw [isBy_earlier, groupDue_advanceGroup, ← advanced.elapsed,
                nextDue_settle isStillClosed]
              rfl
            have isDue : isBy time
                (earlier (rehearsal.advanceGroup group).1.settle.nextDue
                  (groupDue (rehearsal.advanceGroup group).2)) = true := by
              rw [isBy_earlier, groupIsDue, Bool.or_true]
            obtain ⟨due, found, isLater, inTime⟩ :=
              exists_due_between notYet isDue
            have atTime := advanced.elapsed
            have moved := elapsed_moveTo
              (rehearsal.advanceGroup group).1.settle due
            rw [found]
            simp only
            rw [if_pos (by omega)]
            apply inductionHypothesis _ stillEnds (by omega)
            exact (lasts.moveTo due
              (lasts.settle ⟨isStillClosed, trivial⟩)).1
  exact general isClosed ends (by omega)

/-- The wait for a group of closings does not come to an end if one of them
never does. -/
theorem waitGroup_of_hangs (rehearsal : Rehearsal)
    {group : List GroupClosing}
    (stuck : group.any GroupClosing.hangs = true) (limit : Nat) :
    (rehearsal.waitGroup limit group).2.2 = false := by
  unfold waitGroup
  generalize limit - rehearsal.elapsed + 1 = bound
  induction bound generalizing rehearsal group with
  | zero => rfl
  | succ bound inductionHypothesis =>
      obtain ⟨closing, member, hangs⟩ := List.any_eq_true.1 stuck
      have stillStuck :
          (rehearsal.advanceGroup group).2.any GroupClosing.hangs = true := by
        rw [advanceGroup_eq, List.any_map, List.any_eq_true]
        exact ⟨closing, member, (closing.hangs_lookAt _).trans hangs⟩
      have goesOn : ¬ isGroupDone (rehearsal.advanceGroup group).2 = true := by
        rw [advanceGroup_eq, isGroupDone_lookAt, List.all_eq_true]
        intro hasEnded
        have ended := hasEnded closing member
        rw [GroupClosing.isOver_of_hangs hangs] at ended
        cases ended
      unfold waitGroupWithin
      simp only
      rw [if_neg goesOn]
      split
      · rfl
      · split
        · exact inductionHypothesis _ stillStuck
        · rfl

end MeetingLog.Rehearsal
