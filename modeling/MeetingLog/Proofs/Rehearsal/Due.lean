import MeetingLog.Rehearsal.Run

/-!
# What is due

A due time is known by the times at which it has come. The earlier of two due
times has come as soon as one of them has; so the next thing is due as soon as
one task or the regular check is.
-/

namespace MeetingLog

/-- `isBy time due` means that something is due, no later than a time. -/
def isBy (time : Nat) (due : Option Nat) : Bool :=
  due.any fun due => due ≤ time

@[simp]
theorem isBy_none (time : Nat) : isBy time none = false :=
  rfl

@[simp]
theorem isBy_some (time due : Nat) :
    isBy time (some due) = decide (due ≤ time) :=
  rfl

theorem isBy_of_le {time later : Nat} {due : Option Nat}
    (isLater : time ≤ later) (held : isBy time due = true) :
    isBy later due = true := by
  cases due with
  | none => cases held
  | some due =>
      simp only [isBy_some, decide_eq_true_eq] at held ⊢
      omega

theorem isBy_eq_true_iff {time : Nat} {due : Option Nat} :
    isBy time due = true ↔ ∃ moment ≤ time, due = some moment := by
  cases due <;> simp

/-! ## Groups of closings -/

namespace GroupClosing

/-- `isOver time closing` means that a closing of a group has come to its end
at a time. -/
def isOver (time : Nat) (closing : GroupClosing) : Bool :=
  closing.isDone || isBy time closing.due

/-- `hangs closing` means that a closing never comes to its end. -/
def hangs (closing : GroupClosing) : Bool :=
  !closing.isDone && closing.due.isNone

/-- A closing of a group once it was looked at. -/
def lookAt (time : Nat) (closing : GroupClosing) : GroupClosing :=
  { closing with isDone := closing.isOver time }

theorem isOver_of_le {time later : Nat} {closing : GroupClosing}
    (isLater : time ≤ later) (hasEnded : closing.isOver time = true) :
    closing.isOver later = true := by
  rw [isOver, Bool.or_eq_true] at hasEnded ⊢
  exact hasEnded.imp_right (isBy_of_le isLater)

theorem isOver_lookAt {time later : Nat} {closing : GroupClosing}
    (hasEnded : closing.isOver later = true) :
    (closing.lookAt time).isOver later = true := by
  rw [isOver, Bool.or_eq_true] at hasEnded ⊢
  simp only [lookAt, isOver, Bool.or_eq_true]
  exact hasEnded.imp_left .inl

theorem hangs_lookAt (time : Nat) (closing : GroupClosing) :
    (closing.lookAt time).hangs = closing.hangs := by
  cases due : closing.due <;> simp [hangs, lookAt, isOver, due]

theorem isOver_of_hangs {closing : GroupClosing}
    (hangs : closing.hangs = true) (time : Nat) :
    closing.isOver time = false := by
  rw [GroupClosing.hangs, Bool.and_eq_true, Bool.not_eq_true',
    Option.isNone_iff_eq_none] at hangs
  rw [isOver, hangs.1, hangs.2]
  rfl

end GroupClosing

namespace Rehearsal

/-- The time by which all closings of a group have come to their ends that ever
do. -/
def latest (group : List GroupClosing) : Nat :=
  group.foldr (fun closing time => max (closing.due.getD 0) time) 0

theorem isOver_latest {group : List GroupClosing}
    (ends : group.any GroupClosing.hangs = false) :
    group.all (GroupClosing.isOver (latest group)) = true := by
  induction group with
  | nil => rfl
  | cons closing others inductionHypothesis =>
      rw [List.any_cons, Bool.or_eq_false_iff] at ends
      obtain ⟨closingEnds, othersEnd⟩ := ends
      have later : latest others ≤ latest (closing :: others) :=
        Nat.le_max_right _ _
      rw [List.all_cons, Bool.and_eq_true]
      constructor
      · cases due : closing.due with
        | none =>
            simpa [GroupClosing.hangs, GroupClosing.isOver, due] using
              closingEnds
        | some moment =>
            have inTime : moment ≤ latest (closing :: others) := by
              rw [latest, List.foldr_cons, due]
              exact Nat.le_max_left _ _
            simp [GroupClosing.isOver, due, inTime]
      · have hasEnded := inductionHypothesis othersEnd
        rw [List.all_eq_true] at hasEnded ⊢
        intro other member
        exact GroupClosing.isOver_of_le later (hasEnded other member)

theorem isBy_earlier (time : Nat) (first second : Option Nat) :
    isBy time (earlier first second) =
      (isBy time first || isBy time second) := by
  cases first with
  | none => simp [earlier]
  | some first =>
      cases second with
      | none => simp [earlier]
      | some second =>
          simp only [earlier, isBy_some]
          split <;> rw [Bool.eq_iff_iff] <;> simp <;> omega

theorem isBy_groupDue (time : Nat) (group : List GroupClosing) :
    isBy time (groupDue group) =
      group.any fun closing => !closing.isDone && isBy time closing.due := by
  have general : ∀ due : Option Nat,
      isBy time
          (group.foldl
            (fun due closing =>
              if closing.isDone then due else earlier due closing.due) due) =
        (isBy time due ||
          group.any fun closing =>
            !closing.isDone && isBy time closing.due) := by
    induction group with
    | nil => simp
    | cons closing others inductionHypothesis =>
        intro due
        rw [List.foldl_cons, inductionHypothesis, List.any_cons,
          ← Bool.or_assoc]
        cases closing.isDone <;> simp [isBy_earlier]
  rw [groupDue, general none, isBy_none, Bool.false_or]

theorem isGroupDone_lookAt (time : Nat) (group : List GroupClosing) :
    isGroupDone (group.map (GroupClosing.lookAt time)) =
      group.all (GroupClosing.isOver time) := by
  rw [isGroupDone, List.all_map]
  rfl

/-- As long as not all closings of a group have been seen to end, one of them
is due. -/
theorem any_of_not_isGroupDone {time : Nat} {group : List GroupClosing}
    (goesOn : isGroupDone group = false)
    (ends : group.all (GroupClosing.isOver time) = true) :
    (group.any fun closing =>
      !closing.isDone && isBy time closing.due) = true := by
  obtain ⟨closing, member, notSeen⟩ := List.all_eq_false.1 goesOn
  have hasEnded := List.all_eq_true.1 ends closing member
  have isNotDone : closing.isDone = false := by simpa using notSeen
  refine List.any_eq_true.2 ⟨closing, member, ?_⟩
  simpa [GroupClosing.isOver, isNotDone] using hasEnded

end Rehearsal

/-! ## The regular check -/

namespace IdleLoop

/-- What the regular check is doing after it has run, once the meeting is being
closed: it is over when it wakes up, and when all closings of the group that it
waits for have come to their ends. -/
def goOn (time : Nat) : IdleLoop → IdleLoop
  | .absent => .absent
  | .ended => .ended
  | .sleeping _ _ => .ended
  | .closing group turn =>
      if group.all (GroupClosing.isOver time) then .ended
      else .closing (group.map (GroupClosing.lookAt time)) turn

/-- `isOver loop` means that the regular check does not run any more. -/
def isOver : IdleLoop → Bool
  | .absent => true
  | .ended => true
  | _ => false

/-- `isDueBy time loop` means that the regular check runs no later than at a
time. -/
def isDueBy (time : Nat) : IdleLoop → Bool
  | .sleeping due _ => due ≤ time
  | .closing group _ =>
      group.any fun closing => !closing.isDone && isBy time closing.due
  | _ => false

/-- `waits loop` means that if the regular check waits for a group of closings,
not all of them have been seen to end. -/
def waits : IdleLoop → Bool
  | .closing group _ => !Rehearsal.isGroupDone group
  | _ => true

/-- `endsBy time loop` means that the regular check is over at a time, once the
meeting is being closed. -/
def endsBy (time : Nat) : IdleLoop → Bool
  | .sleeping due _ => due ≤ time
  | .closing group _ => group.all (GroupClosing.isOver time)
  | _ => true

/-- `isStuck loop` means that the regular check waits for a closing that never
comes to its end. -/
def isStuck : IdleLoop → Bool
  | .closing group _ => group.any GroupClosing.hangs
  | _ => false

variable {loop : IdleLoop} {now time : Nat}

theorem isDueBy_goOn (time : Nat) (loop : IdleLoop) :
    (loop.goOn time).isDueBy time = false := by
  cases loop with
  | absent => rfl
  | ended => rfl
  | sleeping due turn => rfl
  | closing group turn =>
      rw [goOn]
      split
      · rfl
      · rw [isDueBy, List.any_map, List.any_eq_false]
        intro closing _
        cases closing.isDone <;>
          simp [GroupClosing.lookAt, GroupClosing.isOver]

theorem waits_goOn (time : Nat) (waits : loop.waits = true) :
    (loop.goOn time).waits = true := by
  cases loop with
  | absent => rfl
  | ended => rfl
  | sleeping due turn => rfl
  | closing group turn =>
      rw [goOn]
      split
      · rfl
      · next goesOn =>
          rw [IdleLoop.waits, Rehearsal.isGroupDone_lookAt]
          simpa using goesOn

theorem endsBy_goOn (now : Nat) (ends : loop.endsBy time = true) :
    (loop.goOn now).endsBy time = true := by
  cases loop with
  | absent => rfl
  | ended => rfl
  | sleeping due turn => rfl
  | closing group turn =>
      rw [goOn]
      split
      · rfl
      · rw [endsBy, List.all_eq_true] at ends ⊢
        intro closing member
        obtain ⟨earlier, isMember, rfl⟩ := List.mem_map.1 member
        exact GroupClosing.isOver_lookAt (ends earlier isMember)

theorem isStuck_goOn (now : Nat) (stuck : loop.isStuck = true) :
    (loop.goOn now).isStuck = true := by
  cases loop with
  | absent => cases stuck
  | ended => cases stuck
  | sleeping due turn => cases stuck
  | closing group turn =>
      rw [isStuck, List.any_eq_true] at stuck
      obtain ⟨closing, member, hangs⟩ := stuck
      rw [goOn, if_neg]
      · rw [isStuck, List.any_map, List.any_eq_true]
        exact ⟨closing, member, (closing.hangs_lookAt now).trans hangs⟩
      · intro hasEnded
        have ended := List.all_eq_true.1 hasEnded closing member
        rw [GroupClosing.isOver_of_hangs hangs now] at ended
        cases ended

theorem isOver_of_isStuck (stuck : loop.isStuck = true) :
    loop.isOver = false := by
  cases loop with
  | absent => cases stuck
  | ended => cases stuck
  | sleeping due turn => rfl
  | closing group turn => rfl

/-- Unless the regular check is over, it is due before it ends. -/
theorem isDueBy_of_endsBy (waits : loop.waits = true)
    (ends : loop.endsBy time = true) (goesOn : loop.isOver = false) :
    loop.isDueBy time = true := by
  cases loop with
  | absent => cases goesOn
  | ended => cases goesOn
  | sleeping due turn => exact ends
  | closing group turn =>
      rw [IdleLoop.waits, Bool.not_eq_true'] at waits
      exact Rehearsal.any_of_not_isGroupDone waits ends

end IdleLoop

namespace Rehearsal

variable {rehearsal next : Rehearsal} {time : Nat}

theorem isDue_eq (rehearsal : Rehearsal) (due : Option Nat) :
    rehearsal.isDue due = isBy rehearsal.elapsed due := by
  cases due <;> rfl

/-! ## Tasks and the regular check -/

theorem firstTask_some {tasks : List Task} {task : Task} {due : Nat}
    (found : firstTask tasks = some (task, due)) :
    task ∈ tasks ∧ task.due = some due := by
  induction tasks generalizing task due with
  | nil => cases found
  | cons head others inductionHypothesis =>
      rw [firstTask] at found
      split at found
      · obtain ⟨member, same⟩ := inductionHypothesis found
        exact ⟨List.mem_cons_of_mem _ member, same⟩
      · next own _ =>
          cases found
          exact ⟨List.mem_cons_self, own⟩
      · next own later =>
          split at found
          · cases found
            exact ⟨List.mem_cons_self, own⟩
          · cases found
            obtain ⟨member, same⟩ := inductionHypothesis later
            exact ⟨List.mem_cons_of_mem _ member, same⟩

theorem isBy_firstTask (time : Nat) (tasks : List Task) :
    isBy time ((firstTask tasks).map (·.2)) =
      tasks.any fun task => isBy time task.due := by
  induction tasks with
  | nil => rfl
  | cons task others inductionHypothesis =>
      rw [List.any_cons, ← inductionHypothesis, firstTask]
      split
      · next none => simp [none]
      · next own none => simp [own, none]
      · next own later =>
          rw [own, later]
          split
          · next before =>
              simp only [isBefore, Option.map_some, isBy_some] at before ⊢
              rw [Bool.eq_iff_iff]
              simp at before ⊢
              omega
          · next after =>
              simp only [isBefore, Option.map_some, isBy_some] at after ⊢
              rw [Bool.eq_iff_iff]
              simp at after ⊢
              omega

theorem isBy_loopDue (time : Nat) (rehearsal : Rehearsal) :
    isBy time (rehearsal.loopDue.map (·.1)) =
      rehearsal.idleLoop.isDueBy time := by
  unfold loopDue
  cases rehearsal.idleLoop with
  | absent => rfl
  | ended => rfl
  | sleeping due turn => rfl
  | closing group turn =>
      rw [IdleLoop.isDueBy, ← isBy_groupDue, Option.map_map]
      exact congrArg (isBy time) Option.map_id'

theorem isBy_nextDue (time : Nat) (rehearsal : Rehearsal) :
    isBy time rehearsal.nextDue =
      ((rehearsal.tasks.any fun task => isBy time task.due) ||
        rehearsal.idleLoop.isDueBy time) := by
  rw [nextDue, isBy_earlier, isBy_firstTask, isBy_loopDue]

/-- What runs first is a task that is due, or the regular check. -/
theorem runFirst?_some (ran : rehearsal.runFirst? = some next) :
    (∃ task ∈ rehearsal.tasks,
      isBy rehearsal.elapsed task.due = true ∧
        next = rehearsal.runTask task) ∨
    (rehearsal.idleLoop.isDueBy rehearsal.elapsed = true ∧
      next = rehearsal.runLoop) := by
  have taskDue {task : Task} {due : Nat}
      (found : (firstTask rehearsal.tasks).filter
        (fun found => found.2 ≤ rehearsal.elapsed) = some (task, due)) :
      task ∈ rehearsal.tasks ∧ isBy rehearsal.elapsed task.due = true := by
    obtain ⟨first, isNow⟩ := Option.filter_eq_some_iff.1 found
    obtain ⟨member, same⟩ := firstTask_some first
    exact ⟨member, by rw [same]; exact isNow⟩
  have checkIsDue {check : Nat × Nat}
      (found : rehearsal.loopDue.filter
        (fun found => found.1 ≤ rehearsal.elapsed) = some check) :
      rehearsal.idleLoop.isDueBy rehearsal.elapsed = true := by
    obtain ⟨due, isNow⟩ := Option.filter_eq_some_iff.1 found
    rw [← isBy_loopDue, due]
    exact isNow
  unfold runFirst? at ran
  simp only at ran
  split at ran
  · cases ran
  · next found _ =>
      cases ran
      obtain ⟨member, isNow⟩ := taskDue found
      exact .inl ⟨_, member, isNow, rfl⟩
  · next _ check =>
      cases ran
      exact .inr ⟨checkIsDue check, rfl⟩
  · next found check =>
      obtain ⟨member, isNow⟩ := taskDue found
      split at ran
      · cases ran
        exact .inl ⟨_, member, isNow, rfl⟩
      · cases ran
        exact .inr ⟨checkIsDue check, rfl⟩

/-- If nothing runs, nothing is due yet. -/
theorem runFirst?_none (drained : rehearsal.runFirst? = none) :
    isBy rehearsal.elapsed rehearsal.nextDue = false := by
  unfold runFirst? at drained
  simp only at drained
  split at drained
  · next task check =>
      rw [nextDue, isBy_earlier, Bool.or_eq_false_iff]
      constructor
      · cases found : firstTask rehearsal.tasks with
        | none => rfl
        | some first => simpa [found] using task
      · cases found : rehearsal.loopDue with
        | none => rfl
        | some due => simpa [found] using check
  · cases drained
  · cases drained
  · split at drained <;> cases drained

end Rehearsal

end MeetingLog
