import MeetingLog.Proofs.Meeting.Holding
import MeetingLog.Proofs.Rehearsal.Waiting

/-!
# What holds throughout a rehearsal

Whatever is done in a rehearsal, and however its openings and closings turn
out, the store holds the records of the meeting, and the regular check does not
wait for closings that have all been seen to end.
-/

namespace MeetingLog.Rehearsal

open MeetingLog.Calendar
open MeetingLog.Files

variable {storeOptions : StoreOptions} {rehearsal : Rehearsal}

/-- `IsSound storeOptions rehearsal` means that the store holds the records of
the meeting and that the regular check waits for nothing that is over. -/
structure IsSound (storeOptions : StoreOptions) (rehearsal : Rehearsal) :
    Prop where
  meeting : Meeting.IsSound storeOptions rehearsal.meeting
  waits : rehearsal.idleLoop.waits = true

/-- `Reaches begun rehearsal` means that a rehearsal that has begun gets into a
state by directions, each of which may come before or after something that is
due has run. -/
inductive Reaches (begun : Rehearsal) : Rehearsal → Prop
  | begun : Reaches begun begun
  | directed {rehearsal : Rehearsal} (direction : Direction) :
      Reaches begun rehearsal → Reaches begun (rehearsal.carryOut direction).1
  | ran {rehearsal next : Rehearsal} :
      Reaches begun rehearsal → rehearsal.runFirst? = some next →
      Reaches begun next

/-- The rehearsal after some directions, each of which is followed by everything
that is due. -/
def stepAll (rehearsal : Rehearsal) (directions : List Direction) :
    Rehearsal :=
  directions.foldl (fun rehearsal direction => (rehearsal.step direction).1)
    rehearsal

theorem Reaches.stepAll {begun : Rehearsal}
    (reached : Reaches begun rehearsal) (directions : List Direction) :
    Reaches begun (rehearsal.stepAll directions) := by
  induction directions generalizing rehearsal with
  | nil => exact reached
  | cons direction others inductionHypothesis =>
      apply inductionHypothesis
      apply settle_induction
      · exact Reaches.ran
      · exact reached.directed direction

namespace IsSound

theorem works {before after : Rehearsal} (works : Works before after)
    (sound : IsSound storeOptions before) : IsSound storeOptions after :=
  ⟨works.meeting.isSound sound.meeting, works.idleLoop ▸ sound.waits⟩

theorem onMeeting (sound : IsSound storeOptions rehearsal)
    {change : Meeting → Meeting}
    (kept : Meeting.IsSound storeOptions (change rehearsal.meeting)) :
    IsSound storeOptions (rehearsal.onMeeting change) :=
  ⟨kept, sound.waits⟩

/-! ## The regular check -/

theorem sleepOrEnd (sound : IsSound storeOptions rehearsal) :
    IsSound storeOptions rehearsal.sleepOrEnd := by
  unfold Rehearsal.sleepOrEnd
  split
  · exact ⟨sound.meeting.note _, rfl⟩
  · exact ⟨sound.meeting, rfl⟩

theorem awaitGroup (sound : IsSound storeOptions rehearsal)
    (group : List GroupClosing) :
    IsSound storeOptions (rehearsal.awaitGroup group) := by
  unfold Rehearsal.awaitGroup
  split
  · exact (sound.works (Works.noteFailures rehearsal group)).sleepOrEnd
  · next goesOn =>
      refine ⟨sound.meeting, ?_⟩
      simpa [IdleLoop.waits] using goesOn

theorem regularCheck (sound : IsSound storeOptions rehearsal) :
    IsSound storeOptions rehearsal.regularCheck := by
  unfold Rehearsal.regularCheck
  have checked : IsSound storeOptions
      { rehearsal with meeting := rehearsal.meeting.checkIdle.1 } :=
    ⟨sound.meeting.checkIdle, sound.waits⟩
  simp only
  split
  · exact (checked.onMeeting (checked.meeting.note _)).sleepOrEnd
  · exact checked.sleepOrEnd
  · exact (checked.works (Works.beginGroup _ _)).awaitGroup _

theorem runLoop (sound : IsSound storeOptions rehearsal) :
    IsSound storeOptions rehearsal.runLoop := by
  unfold Rehearsal.runLoop
  split
  · exact sound
  · exact sound
  · split
    · exact sound.sleepOrEnd
    · exact sound.regularCheck
  · next group turn _ =>
      have advanced := sound.works (Works.advanceGroup rehearsal group)
      simp only
      split
      · exact (advanced.works (Works.noteFailures _ _)).sleepOrEnd
      · next goesOn =>
          refine ⟨advanced.meeting, ?_⟩
          simpa [IdleLoop.waits] using goesOn

theorem lasts : Lasts (IsSound storeOptions) where
  works := works
  tasks _ sound := ⟨sound.meeting, sound.waits⟩
  runLoop := runLoop
  moveTo _ sound :=
    sound.onMeeting ((Meeting.Unwinds.tick _ _).isSound sound.meeting)

/-! ## Directions -/

theorem queueAll {α : Type} (sound : IsSound storeOptions rehearsal)
    (work : α → Work) (items : List α) :
    IsSound storeOptions
      (items.foldl (fun rehearsal item => rehearsal.queue (work item))
        rehearsal) := by
  induction items generalizing rehearsal with
  | nil => exact sound
  | cons item others inductionHypothesis =>
      exact inductionHypothesis ⟨sound.meeting, sound.waits⟩

theorem follow (sound : IsSound storeOptions rehearsal) {meeting : Meeting}
    (kept : Meeting.IsSound storeOptions meeting)
    (farewells : List Farewell) :
    IsSound storeOptions (rehearsal.follow meeting farewells) := by
  have told : IsSound storeOptions { rehearsal with meeting := meeting } :=
    ⟨kept, sound.waits⟩
  exact (told.queueAll .beginOpening _).queueAll .beginClosing farewells

theorem handle (sound : IsSound storeOptions rehearsal) (event : RoomEvent) :
    IsSound storeOptions (rehearsal.handle event).1 :=
  sound.follow (sound.meeting.handle event) _

theorem tell (sound : IsSound storeOptions rehearsal) (event : RoomEvent) :
    IsSound storeOptions (rehearsal.tell event).1 :=
  sound.follow (sound.meeting.receive event) _

theorem handleAll (sound : IsSound storeOptions rehearsal)
    (events : List RoomEvent) :
    IsSound storeOptions (rehearsal.handleAll events).1 := by
  induction events generalizing rehearsal with
  | nil => exact sound.onMeeting (sound.meeting.note _)
  | cons event others inductionHypothesis =>
      have handled := sound.handle event
      unfold Rehearsal.handleAll
      split
      · next failed => rwa [failed] at handled
      · next reached =>
          rw [reached] at handled
          exact inductionHypothesis handled

theorem closeTogether (sound : IsSound storeOptions rehearsal) (limit : Nat)
    (farewells : List Farewell) :
    IsSound storeOptions (rehearsal.closeTogether limit farewells).1 :=
  lasts.closeTogether (sound.works (Works.beginGroup rehearsal farewells))
    limit

theorem checkIdleWithin (sound : IsSound storeOptions rehearsal)
    (limit : Nat) :
    IsSound storeOptions (rehearsal.checkIdleWithin limit).1 := by
  have checked : IsSound storeOptions
      { rehearsal with meeting := rehearsal.meeting.checkIdle.1 } :=
    ⟨sound.meeting.checkIdle, sound.waits⟩
  unfold Rehearsal.checkIdleWithin
  simp only
  split
  · exact checked
  · exact checked
  · next farewells _ =>
      have closed := checked.closeTogether limit farewells
      split
      · next ended => rwa [ended] at closed
      · next hung => rwa [hung] at closed

theorem wait (sound : IsSound storeOptions rehearsal) :
    IsSound storeOptions rehearsal.wait.1 := by
  unfold Rehearsal.wait
  have waited := lasts.waitFor sound
    (fun rehearsal => rehearsal.tasks.isEmpty)
    (rehearsal.elapsed + patience)
  split
  · exact sound
  · split
    · next ended => rwa [ended] at waited
    · next hung =>
        rw [hung] at waited
        exact lasts.dropTasks waited

theorem advance (sound : IsSound storeOptions rehearsal)
    (milliseconds : Nat) :
    IsSound storeOptions (rehearsal.advance milliseconds).1 := by
  have later (limit : Nat) (result : DirectionResult) :
      IsSound storeOptions
        ((rehearsal.waitFor (fun _ => false) limit).1, result).1 :=
    lasts.waitFor sound _ _
  unfold Rehearsal.advance
  split
  · exact later (rehearsal.elapsed + milliseconds) .done
  · exact later (rehearsal.elapsed + patience) .hung

theorem wakeLoop (sound : IsSound storeOptions rehearsal) :
    IsSound storeOptions rehearsal.wakeLoop := by
  unfold Rehearsal.wakeLoop
  split
  · exact ⟨sound.meeting, rfl⟩
  · exact ⟨sound.meeting, sound.waits⟩

theorem closeSessions (sound : IsSound storeOptions rehearsal)
    (limit : Nat) :
    IsSound storeOptions (rehearsal.closeSessions limit).1 := by
  unfold Rehearsal.closeSessions
  have waited : Meeting.IsSound storeOptions rehearsal.meeting.endWaiting :=
    ⟨sound.meeting.keyed, sound.meeting.logged⟩
  have collected : IsSound storeOptions
      { rehearsal with
        meeting := rehearsal.meeting.endWaiting.collectSessions.1 } :=
    ⟨waited.collectSessions, sound.waits⟩
  have closed := collected.closeTogether limit
    rehearsal.meeting.endWaiting.collectSessions.2
  simp only
  split
  · next hung => rwa [hung] at closed
  · next reached failures ended =>
      rw [ended] at closed
      have finished := closed.meeting.finish failures
      split
      · next failed => exact ⟨finished.of_eq failed, closed.waits⟩
      · next done => exact ⟨finished.of_eq done, closed.waits⟩

theorem unwind (sound : IsSound storeOptions rehearsal) (limit : Nat) :
    IsSound storeOptions (rehearsal.unwind limit).1 :=
  lasts.unwind wakeLoop (lasts.onMeeting sound (.stopListening _) rfl) limit

theorem closeWithin (sound : IsSound storeOptions rehearsal) (limit : Nat) :
    IsSound storeOptions (rehearsal.closeWithin limit).1 := by
  have unwound := sound.unwind limit
  unfold Rehearsal.closeWithin
  split
  · next hung => rwa [hung] at unwound
  · next ready =>
      rw [ready] at unwound
      exact unwound.closeSessions limit

theorem carryOut (sound : IsSound storeOptions rehearsal)
    (direction : Direction) :
    IsSound storeOptions (rehearsal.carryOut direction).1 := by
  cases direction with
  | handle event => exact sound.handle event
  | tell event => exact sound.tell event
  | run events =>
      simp only [Rehearsal.carryOut]
      split
      · exact sound
      · exact sound.handleAll events
  | advance milliseconds => exact sound.advance milliseconds
  | checkIdle => exact sound.checkIdleWithin _
  | wait => exact sound.wait
  | finalizeStore ended =>
      have finalized := sound.meeting.finalizeStore ended
      simp only [Rehearsal.carryOut]
      split
      · next refused =>
          exact ⟨finalized.of_eq refused, sound.waits⟩
      · next done => exact ⟨finalized.of_eq done, sound.waits⟩
  | close => exact sound.closeWithin _

end IsSound

/-- Whatever is done in a rehearsal, it stays sound. -/
theorem Reaches.isSound {begun : Rehearsal}
    (sound : IsSound storeOptions begun) (reached : Reaches begun rehearsal) :
    IsSound storeOptions rehearsal := by
  induction reached with
  | begun => exact sound
  | directed direction _ inductionHypothesis =>
      exact inductionHypothesis.carryOut direction
  | ran _ ran inductionHypothesis =>
      exact IsSound.lasts.runFirst? inductionHypothesis ran

theorem start_isSound {options : MeetingOptions} {files : FileTree}
    {began : Moment} {script : Script} {begun : Rehearsal}
    (started :
      start (Meeting.new options storeOptions files began) script =
        (begun, .ok ())) :
    IsSound storeOptions begun := by
  unfold Rehearsal.start at started
  generalize begins :
    (Meeting.new options storeOptions files began).start = reached at started
  obtain ⟨meeting, result⟩ := reached
  obtain ⟨rfl, rfl⟩ := Prod.mk.inj started
  refine ⟨Meeting.start_isSound begins, ?_⟩
  simp only
  split
  · rfl
  · rfl

end MeetingLog.Rehearsal
