import MeetingLog.Proofs.Rehearsal.Waiting

/-!
# Before the sessions left are closed

When a meeting is closed, the end of the regular check is waited for first, and
then what is in flight. Only the second wait is bounded by the grace. So the
sessions left are about to be closed at last, however openings and closings in
flight turn out, unless the regular check waits for a closing that never ends.
-/

namespace MeetingLog.Rehearsal

variable {rehearsal : Rehearsal}

/-! ## Waiting for the regular check -/

/-- The time by which the regular check is over once the meeting is being
closed, if it ever is. -/
def loopEnd (rehearsal : Rehearsal) : Nat :=
  match rehearsal.idleLoop with
  | .closing group _ => max rehearsal.elapsed (latest group)
  | _ => rehearsal.elapsed

/-- `isLoopStuck rehearsal` means that the end of the regular check is waited
for when the meeting is closed, and never comes. -/
def isLoopStuck (rehearsal : Rehearsal) : Bool :=
  rehearsal.isLoopWatched && rehearsal.idleLoop.isStuck

theorem elapsed_le_loopEnd (rehearsal : Rehearsal) :
    rehearsal.elapsed ≤ rehearsal.loopEnd := by
  unfold loopEnd
  split
  · exact Nat.le_max_left _ _
  · exact Nat.le_refl _

theorem wakeLoop_endsBy (goesOn : rehearsal.idleLoop.isStuck = false) :
    rehearsal.wakeLoop.idleLoop.endsBy rehearsal.loopEnd = true := by
  unfold wakeLoop loopEnd
  cases loop : rehearsal.idleLoop with
  | absent => simp [IdleLoop.endsBy]
  | ended => simp [IdleLoop.endsBy]
  | sleeping due turn => simp [IdleLoop.endsBy]
  | closing group turn =>
      rw [loop] at goesOn
      have hasEnded := List.all_eq_true.1 (isOver_latest goesOn)
      simp only
      rw [IdleLoop.endsBy, List.all_eq_true]
      intro closing member
      exact GroupClosing.isOver_of_le (Nat.le_max_right _ _)
        (hasEnded closing member)

theorem wakeLoop_waits (waits : rehearsal.idleLoop.waits = true) :
    rehearsal.wakeLoop.idleLoop.waits = true := by
  unfold wakeLoop
  split
  · rfl
  · exact waits

theorem wakeLoop_isStuck (stuck : rehearsal.idleLoop.isStuck = true) :
    rehearsal.wakeLoop.idleLoop.isStuck = true := by
  unfold wakeLoop
  split
  · next asleep =>
      rw [asleep] at stuck
      cases stuck
  · exact stuck

theorem meeting_wakeLoop (rehearsal : Rehearsal) :
    rehearsal.wakeLoop.meeting = rehearsal.meeting := by
  unfold wakeLoop
  split <;> rfl

theorem awaitLoop_mono {limit later : Nat} {reached : Rehearsal}
    (hasEnded : rehearsal.awaitLoop limit = (reached, true))
    (isLater : limit ≤ later) :
    rehearsal.awaitLoop later = (reached, true) := by
  unfold awaitLoop at hasEnded ⊢
  split at hasEnded
  · next watched =>
      rw [if_pos watched]
      exact waitFor_mono hasEnded isLater
  · next unwatched =>
      rw [if_neg unwatched]
      exact hasEnded

/-- Unless the regular check is stuck its end is waited for with success. -/
theorem awaitLoop_ends (isClosed : rehearsal.meeting.isClosed = true)
    (waits : rehearsal.idleLoop.waits = true)
    (goesOn : rehearsal.isLoopStuck = false) :
    ∃ reached, reached.elapsed ≤ rehearsal.loopEnd ∧
      ∀ limit, rehearsal.loopEnd < limit →
        rehearsal.awaitLoop limit = (reached, true) := by
  cases watched : rehearsal.isLoopWatched with
  | false =>
      refine ⟨rehearsal, rehearsal.elapsed_le_loopEnd, ?_⟩
      intro limit _
      rw [awaitLoop, watched, if_neg Bool.false_ne_true]
  | true =>
      rw [isLoopStuck, watched, Bool.true_and] at goesOn
      have sameMeeting := meeting_wakeLoop rehearsal
      have isEarly : rehearsal.wakeLoop.elapsed ≤ rehearsal.loopEnd := by
        rw [elapsed, sameMeeting]
        exact rehearsal.elapsed_le_loopEnd
      have stillClosed : rehearsal.wakeLoop.meeting.isClosed = true := by
        rw [sameMeeting]
        exact isClosed
      obtain ⟨reached, hasEnded, inTime⟩ := waitFor_isLoopOver stillClosed
        (wakeLoop_waits waits) (wakeLoop_endsBy goesOn) isEarly
        (Nat.lt_succ_self _)
      refine ⟨reached, inTime, ?_⟩
      intro limit isLater
      rw [awaitLoop, if_pos watched]
      exact waitFor_mono hasEnded isLater

theorem awaitLoop_of_isLoopStuck
    (isClosed : rehearsal.meeting.isClosed = true)
    (stuck : rehearsal.isLoopStuck = true) (limit : Nat) :
    (rehearsal.awaitLoop limit).2 = false := by
  rw [isLoopStuck, Bool.and_eq_true] at stuck
  obtain ⟨watched, stuck⟩ := stuck
  rw [awaitLoop, if_pos watched]
  apply waitFor_isLoopOver_of_isStuck
  · rw [meeting_wakeLoop]
    exact isClosed
  · exact wakeLoop_isStuck stuck

theorem Unwinds.wakeLoop {begun : Rehearsal}
    (held : rehearsal.meeting.isClosed = true ∧ Unwinds begun rehearsal) :
    rehearsal.wakeLoop.meeting.isClosed = true ∧
      Unwinds begun rehearsal.wakeLoop := by
  have woken : Unwinds rehearsal rehearsal.wakeLoop := by
    unfold Rehearsal.wakeLoop
    simp only
    split
    · exact ⟨.refl _, fun ends => ends⟩
    · exact ⟨.refl _, fun ends => ends⟩
  exact ⟨woken.meeting.closed held.1, held.2.trans woken⟩

theorem Unwinds.awaitLoop (isClosed : rehearsal.meeting.isClosed = true)
    (limit : Nat) :
    Unwinds rehearsal (rehearsal.awaitLoop limit).1 :=
  ((lasts_unwinds rehearsal).awaitLoop wakeLoop ⟨isClosed, .refl _⟩ limit).2

/-! ## Waiting for what is in flight -/

theorem awaitTasks_mono {limit later : Nat} {reached : Rehearsal}
    (hasEnded : rehearsal.awaitTasks limit = (reached, true))
    (isLater : limit ≤ later) :
    rehearsal.awaitTasks later = (reached, true) := by
  unfold awaitTasks at hasEnded ⊢
  split at hasEnded
  · next none => rwa [if_pos none]
  · next some =>
      rw [if_neg some]
      simp only at hasEnded ⊢
      split at hasEnded
      · rwa [if_pos (by omega)]
      · next late =>
          split at hasEnded
          · next ended =>
              cases hasEnded
              split
              · rw [waitFor_mono ended (by omega)]
              · rw [waitFor_mono ended isLater]
          · cases hasEnded

/-- What is in flight is not waited for beyond the grace. -/
theorem awaitTasks_of_grace {limit : Nat}
    (isLate : rehearsal.elapsed + rehearsal.meeting.options.grace ≤ limit) :
    (rehearsal.awaitTasks limit).2 = true := by
  unfold awaitTasks
  split
  · rfl
  · simp only
    rw [if_pos isLate]
    split <;> rfl

/-! ## Getting ready for the sessions left -/

/-- A limit by which what is waited for first when the meeting is closed is
over or given up, unless the regular check is stuck. -/
def unwindTime (rehearsal : Rehearsal) : Nat :=
  rehearsal.loopEnd + rehearsal.meeting.options.grace + 1

/-- The rehearsal when the sessions left are about to be closed. -/
def ready (rehearsal : Rehearsal) : Rehearsal :=
  (rehearsal.unwind rehearsal.unwindTime).1

theorem isClosed_stopListening (rehearsal : Rehearsal) :
    (rehearsal.onMeeting Meeting.stopListening).meeting.isClosed = true :=
  rfl

theorem Unwinds.unwind (rehearsal : Rehearsal) (limit : Nat) :
    Unwinds rehearsal (rehearsal.unwind limit).1 ∧
      (rehearsal.unwind limit).1.meeting.isClosed = true := by
  have stopped :
      Unwinds rehearsal (rehearsal.onMeeting Meeting.stopListening) :=
    ⟨.stopListening _, fun ends => ends⟩
  exact ((lasts_unwinds rehearsal).unwind wakeLoop
    ⟨rehearsal.isClosed_stopListening, stopped⟩ limit).symm

theorem unwind_mono {limit later : Nat} {reached : Rehearsal}
    (hasEnded : rehearsal.unwind limit = (reached, true))
    (isLater : limit ≤ later) :
    rehearsal.unwind later = (reached, true) := by
  unfold unwind at hasEnded ⊢
  split at hasEnded
  · cases hasEnded
  · next ended =>
      rw [awaitLoop_mono ended isLater]
      exact awaitTasks_mono hasEnded isLater

/-- Unless the regular check is stuck, the sessions left are about to be closed
at last, however openings and closings in flight turn out. -/
theorem unwind_ready (waits : rehearsal.idleLoop.waits = true)
    (goesOn : rehearsal.isLoopStuck = false) {limit : Nat}
    (isLate : rehearsal.unwindTime ≤ limit) :
    rehearsal.unwind limit = (rehearsal.ready, true) := by
  have stopped := rehearsal.isClosed_stopListening
  obtain ⟨reached, inTime, hasEnded⟩ := awaitLoop_ends stopped waits goesOn
  have isLater : rehearsal.loopEnd < rehearsal.unwindTime := by
    unfold unwindTime
    omega
  have awaited := Unwinds.awaitLoop stopped rehearsal.unwindTime
  rw [hasEnded _ isLater] at awaited
  have inGrace :
      reached.elapsed + reached.meeting.options.grace ≤
        rehearsal.unwindTime := by
    rw [awaited.meeting.options]
    exact Nat.le_succ_of_le (Nat.add_le_add_right inTime _)
  have ends : (rehearsal.unwind rehearsal.unwindTime).2 = true := by
    unfold unwind
    rw [hasEnded _ isLater]
    exact awaitTasks_of_grace inGrace
  exact unwind_mono (Prod.ext rfl ends) isLate

theorem unwind_of_isLoopStuck (stuck : rehearsal.isLoopStuck = true)
    (limit : Nat) : (rehearsal.unwind limit).2 = false := by
  have hung :=
    awaitLoop_of_isLoopStuck rehearsal.isClosed_stopListening stuck limit
  unfold unwind
  split
  · rfl
  · next hasEnded =>
      rw [hasEnded] at hung
      cases hung

end MeetingLog.Rehearsal
