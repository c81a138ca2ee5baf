import MeetingLog.Proofs.Rehearsal.Keeping
import MeetingLog.Proofs.Rehearsal.Readiness

/-!
# Shutdown

To close a meeting means to wait three times: for the regular check, for what
is in flight, and for the sessions left. Only the second wait is bounded by the
grace. So openings and closings in flight cannot hold up the end of the log,
but one closing that never ends can, if the regular check waits for it or if it
is that of a session left.
-/

namespace MeetingLog.Rehearsal

open MeetingLog.Calendar
open MeetingLog.Files

variable {rehearsal : Rehearsal} {farewells : List Farewell}
variable {storeOptions : StoreOptions}

/-! ## Closing sessions together -/

/-- Every session of a group is asked to close before anything is waited
for. -/
theorem asked_beginGroup (rehearsal : Rehearsal) {farewells : List Farewell}
    {farewell : Farewell} (member : farewell ∈ farewells) :
    .askedClose farewell.identity farewell.session ∈
      (rehearsal.beginGroup farewells).1.meeting.calls := by
  induction farewells generalizing rehearsal with
  | nil => cases member
  | cons first others inductionHypothesis =>
      unfold beginGroup
      rcases List.mem_cons.1 member with rfl | later
      · apply (Works.beginGroup _ others).meeting.calls
        have asked : Call.askedClose farewell.identity farewell.session ∈
            (rehearsal.meeting.beginClosing farewell).calls :=
          List.mem_append_right _ List.mem_cons_self
        split
        · exact List.mem_append_left _ asked
        · exact asked
      · exact inductionHypothesis _ later

theorem closeTogether_mono {limit later failures : Nat}
    {reached : Rehearsal}
    (ended : rehearsal.closeTogether limit farewells =
      (reached, some failures))
    (isLater : limit ≤ later) :
    rehearsal.closeTogether later farewells = (reached, some failures) := by
  unfold closeTogether at ended ⊢
  simp only at ended ⊢
  split at ended
  · next hasEnded =>
      rw [waitGroup_mono hasEnded isLater]
      exact ended
  · cases ended

/-- Unless one of the closings hangs all of them end. -/
theorem closeTogether_ends (isClosed : rehearsal.meeting.isClosed = true)
    (ends :
      (rehearsal.beginGroup farewells).2.any GroupClosing.hangs = false) :
    ∃ time reached failures, ∀ limit, time ≤ limit →
      rehearsal.closeTogether limit farewells = (reached, some failures) := by
  have begun := Works.beginGroup rehearsal farewells
  obtain ⟨reached, group, ended⟩ :=
    waitGroup_ends (begun.meeting.closed isClosed) (isOver_latest ends)
      (Nat.lt_succ_self _)
  refine ⟨latest (rehearsal.beginGroup farewells).2 + 1,
    reached.noteFailures group, (groupFailures group).length, ?_⟩
  intro limit isLater
  refine closeTogether_mono ?_ isLater
  unfold closeTogether
  simp only
  rw [ended]

theorem closeTogether_of_hangs
    (stuck :
      (rehearsal.beginGroup farewells).2.any GroupClosing.hangs = true)
    (limit : Nat) :
    (rehearsal.closeTogether limit farewells).2 = none := by
  have hung :=
    waitGroup_of_hangs (rehearsal.beginGroup farewells).1 stuck limit
  unfold closeTogether
  simp only
  split
  · next hasEnded =>
      rw [hasEnded] at hung
      cases hung
  · rfl

theorem Unwinds.closeTogether (isClosed : rehearsal.meeting.isClosed = true)
    (limit : Nat) (farewells : List Farewell) :
    Unwinds (rehearsal.beginGroup farewells).1
      (rehearsal.closeTogether limit farewells).1 := by
  have begun := Works.beginGroup rehearsal farewells
  exact ((lasts_unwinds _).closeTogether
    ⟨begun.meeting.closed isClosed, .refl _⟩ limit).2

/-! ## Closing the sessions left -/

/-- The rehearsal when the sessions left have been handed over. -/
def collected (rehearsal : Rehearsal) : Rehearsal :=
  { rehearsal with meeting := rehearsal.meeting.endWaiting.collectSessions.1 }

/-- The closings of the sessions left. -/
def lastClosings (rehearsal : Rehearsal) : List GroupClosing :=
  (rehearsal.collected.beginGroup rehearsal.meeting.remainingSessions).2

/-- `isHeldUp rehearsal` means that a closing that never ends is waited for when
the meeting is closed: the regular check waits for it, or it is that of a
session left. -/
def isHeldUp (rehearsal : Rehearsal) : Bool :=
  rehearsal.isLoopStuck ||
    rehearsal.ready.lastClosings.any GroupClosing.hangs

/-- `AsksAll before after` means that each session that somebody has in one
rehearsal has been asked to close in the other. -/
def AsksAll (before after : Rehearsal) : Prop :=
  ∀ identity session, before.meeting.IsAttached identity session →
    .askedClose identity session ∈ after.meeting.calls

/-- The sessions left are asked to close, even if one of them never does. -/
theorem closeCollected_asksAll (isClosed : rehearsal.meeting.isClosed = true)
    (keyed : rehearsal.meeting.IsKeyed) (limit : Nat) :
    AsksAll rehearsal
      (rehearsal.collected.closeTogether limit
        rehearsal.meeting.remainingSessions).1 := by
  have stillClosed : rehearsal.collected.meeting.isClosed = true := isClosed
  intro identity session attached
  apply (Unwinds.closeTogether stillClosed limit _).meeting.calls
  have left := (Meeting.mem_remainingSessions_iff keyed _ _).2 attached
  exact asked_beginGroup rehearsal.collected left

theorem Unwinds.closeCollected
    (isClosed : rehearsal.meeting.isClosed = true) (limit : Nat) :
    Unwinds rehearsal.collected
      (rehearsal.collected.closeTogether limit
        rehearsal.meeting.remainingSessions).1 := by
  have stillClosed : rehearsal.collected.meeting.isClosed = true := isClosed
  exact (Works.beginGroup _ _).toReacts.unwinds.trans
    (.closeTogether stillClosed limit _)

theorem closeSessions_of_none {limit : Nat} {reached : Rehearsal}
    (hung : rehearsal.collected.closeTogether limit
      rehearsal.meeting.remainingSessions = (reached, none)) :
    rehearsal.closeSessions limit = (reached, .hung) := by
  have hung : closeTogether limit
      { rehearsal with
        meeting := rehearsal.meeting.endWaiting.collectSessions.1 }
      rehearsal.meeting.endWaiting.collectSessions.2 = (reached, none) :=
    hung
  unfold closeSessions
  simp only [hung]

theorem closeSessions_of_some {limit failures : Nat} {reached : Rehearsal}
    (closed : rehearsal.collected.closeTogether limit
      rehearsal.meeting.remainingSessions = (reached, some failures)) :
    (rehearsal.closeSessions limit).1 =
        { reached with meeting := (reached.meeting.finish failures).1 } ∧
      ((reached.meeting.finish failures).2 = .ok () →
        (rehearsal.closeSessions limit).2 = .done) := by
  have closed : closeTogether limit
      { rehearsal with
        meeting := rehearsal.meeting.endWaiting.collectSessions.1 }
      rehearsal.meeting.endWaiting.collectSessions.2 =
        (reached, some failures) :=
    closed
  unfold closeSessions
  simp only [closed]
  split
  · next failed =>
      rw [failed]
      exact ⟨rfl, nofun⟩
  · next done =>
      rw [done]
      exact ⟨rfl, fun _ => rfl⟩

theorem closeSessions_asksAll (isClosed : rehearsal.meeting.isClosed = true)
    (keyed : rehearsal.meeting.IsKeyed) (limit : Nat) :
    AsksAll rehearsal (rehearsal.closeSessions limit).1 := by
  have asked := closeCollected_asksAll isClosed keyed limit
  cases result : (rehearsal.collected.closeTogether limit
    rehearsal.meeting.remainingSessions).2 with
  | none =>
      rw [closeSessions_of_none (Prod.ext rfl result)]
      exact asked
  | some failures =>
      rw [(closeSessions_of_some (Prod.ext rfl result)).1]
      intro identity session attached
      rw [Meeting.finish_eq]
      exact asked identity session attached

/-- Unless the closing of a session left hangs, the log is finalized. -/
theorem closeSessions_ends (isClosed : rehearsal.meeting.isClosed = true)
    (keyed : rehearsal.meeting.IsKeyed)
    (recording : Store.IsRecording storeOptions rehearsal.meeting.store
      rehearsal.meeting.files rehearsal.meeting.records)
    (writes : ∀ ended, (rehearsal.meeting.store.finalize
      rehearsal.meeting.files ended).result = .ok ())
    (ends : rehearsal.lastClosings.any GroupClosing.hangs = false) :
    ∃ time closed,
      (∀ limit, time ≤ limit →
        rehearsal.closeSessions limit = (closed, .done)) ∧
      AsksAll rehearsal closed ∧
      ∃ ended,
        Store.IsFinalized storeOptions closed.meeting.store
          closed.meeting.files rehearsal.meeting.records ended := by
  have stillClosed : rehearsal.collected.meeting.isClosed = true := isClosed
  obtain ⟨time, reached, failures, closes⟩ :=
    closeTogether_ends stillClosed ends
  have closed := closes time (Nat.le_refl _)
  have unwinds := Unwinds.closeCollected isClosed time
  have asked := closeCollected_asksAll isClosed keyed time
  rw [closed] at unwinds asked
  have sameStore : reached.meeting.store = rehearsal.meeting.store :=
    unwinds.meeting.store
  have sameFiles : reached.meeting.files = rehearsal.meeting.files :=
    unwinds.meeting.files
  have finishes : (reached.meeting.finish failures).2 = .ok () := by
    apply Meeting.finish_ok
    rw [sameStore, sameFiles]
    exact writes _
  refine ⟨time,
    { reached with meeting := (reached.meeting.finish failures).1 }, ?_, ?_,
    reached.meeting.now.wholeSecond, ?_⟩
  · intro limit isLater
    obtain ⟨same, done⟩ := closeSessions_of_some (closes limit isLater)
    exact Prod.ext same (done finishes)
  · intro identity session attached
    rw [Meeting.finish_eq]
    exact asked identity session attached
  · rw [Meeting.finish_eq]
    simp only
    rw [sameStore, sameFiles]
    exact recording.finalize _

/-- If the closing of a session left hangs, the log is not finalized. -/
theorem closeSessions_of_hangs (isClosed : rehearsal.meeting.isClosed = true)
    (stuck : rehearsal.lastClosings.any GroupClosing.hangs = true)
    (limit : Nat) :
    (rehearsal.closeSessions limit).2 = .hung ∧
      (rehearsal.closeSessions limit).1.meeting.store =
        rehearsal.meeting.store ∧
      (rehearsal.closeSessions limit).1.meeting.files =
        rehearsal.meeting.files := by
  have hung := closeTogether_of_hangs stuck limit
  have unwinds := Unwinds.closeCollected isClosed limit
  rw [closeSessions_of_none (Prod.ext rfl hung)]
  exact ⟨rfl, unwinds.meeting.store, unwinds.meeting.files⟩

/-! ## Closing the meeting -/

/-- Unless it is held up, the meeting is closed in the end and its log is
complete. -/
theorem closeWithin_ends (sound : IsSound storeOptions rehearsal)
    (isOpen : rehearsal.meeting.store.isOpen = true)
    (writes : ∀ ended, (rehearsal.meeting.store.finalize
      rehearsal.meeting.files ended).result = .ok ())
    (goesOn : rehearsal.isHeldUp = false) :
    ∃ time closed,
      (∀ limit, time ≤ limit →
        rehearsal.closeWithin limit = (closed, .done)) ∧
      AsksAll rehearsal closed ∧
      ∃ ended,
        Store.IsFinalized storeOptions closed.meeting.store
          closed.meeting.files rehearsal.meeting.records ended := by
  rw [isHeldUp, Bool.or_eq_false_iff] at goesOn
  obtain ⟨loopGoesOn, lastEnd⟩ := goesOn
  obtain ⟨unwinds, isClosed⟩ :=
    Unwinds.unwind rehearsal rehearsal.unwindTime
  have unwound {limit : Nat} (isLate : rehearsal.unwindTime ≤ limit) :=
    unwind_ready sound.waits loopGoesOn isLate
  have keyed := sound.meeting.keyed
  have recording : Store.IsRecording storeOptions
      rehearsal.ready.meeting.store rehearsal.ready.meeting.files
      rehearsal.ready.meeting.records :=
    (unwinds.meeting.isSound sound.meeting).logged.isRecording
      (by rw [unwinds.meeting.store]; exact isOpen)
  obtain ⟨time, closed, closes, asked, ended, finalized⟩ :=
    closeSessions_ends isClosed (unwinds.meeting.keyed keyed) recording
      (by rw [unwinds.meeting.store, unwinds.meeting.files]; exact writes)
      lastEnd
  refine ⟨max rehearsal.unwindTime time, closed, ?_, ?_, ended, ?_⟩
  · intro limit isLate
    rw [closeWithin, unwound (by omega)]
    exact closes limit (by omega)
  · intro identity session attached
    exact asked identity session
      (unwinds.meeting.attached keyed identity session attached)
  · rw [← unwinds.meeting.records]
    exact finalized

/-- If it is held up, the meeting is never closed, and nothing is written to
its log. -/
theorem closeWithin_of_isHeldUp (waits : rehearsal.idleLoop.waits = true)
    (heldUp : rehearsal.isHeldUp = true) (limit : Nat) :
    (rehearsal.closeWithin limit).2 = .hung ∧
      (rehearsal.closeWithin limit).1.meeting.store =
        rehearsal.meeting.store ∧
      (rehearsal.closeWithin limit).1.meeting.files =
        rehearsal.meeting.files := by
  obtain ⟨unwinds, isClosed⟩ := Unwinds.unwind rehearsal limit
  unfold closeWithin
  split
  · next hung =>
      rw [hung] at unwinds
      exact ⟨rfl, unwinds.meeting.store, unwinds.meeting.files⟩
  · next reached hasEnded =>
      rw [hasEnded] at unwinds isClosed
      have goesOn : rehearsal.isLoopStuck = false := by
        cases stuck : rehearsal.isLoopStuck with
        | false => rfl
        | true =>
            have hung := unwind_of_isLoopStuck stuck limit
            rw [hasEnded] at hung
            cases hung
      rw [isHeldUp, goesOn, Bool.false_or] at heldUp
      -- What is reached before the limit does not depend on the limit.
      have isReady : reached = rehearsal.ready := by
        have sooner :=
          unwind_mono hasEnded (Nat.le_max_left limit rehearsal.unwindTime)
        have later :=
          unwind_ready waits goesOn (Nat.le_max_right limit _)
        exact (Prod.mk.inj (sooner.symm.trans later)).1
      rw [← isReady] at heldUp
      obtain ⟨hung, sameStore, sameFiles⟩ :=
        closeSessions_of_hangs isClosed heldUp limit
      exact ⟨hung, sameStore.trans unwinds.meeting.store,
        sameFiles.trans unwinds.meeting.files⟩

/-- Unless the regular check is stuck, every session is asked to close when the
meeting is closed, whether that ends or not. -/
theorem closeWithin_asksAll (waits : rehearsal.idleLoop.waits = true)
    (keyed : rehearsal.meeting.IsKeyed)
    (goesOn : rehearsal.isLoopStuck = false) {limit : Nat}
    (isLate : rehearsal.unwindTime ≤ limit) :
    AsksAll rehearsal (rehearsal.closeWithin limit).1 := by
  obtain ⟨unwinds, isClosed⟩ :=
    Unwinds.unwind rehearsal rehearsal.unwindTime
  rw [closeWithin, unwind_ready waits goesOn isLate]
  intro identity session attached
  exact closeSessions_asksAll isClosed (unwinds.meeting.keyed keyed) limit
    identity session
    (unwinds.meeting.attached keyed identity session attached)

theorem takeClosing_ends (ends : rehearsal.script.EndsClosings)
    (identity : String) :
    (rehearsal.takeClosing identity).1.hangs = false := by
  unfold takeClosing
  rcases takeAct_cases rehearsal.script.closings identity with
    ⟨act, others, found, taken⟩ | taken
  · simp only [taken]
    exact ends identity _ found act List.mem_cons_self
  · simp only [taken]
    rfl

theorem beginGroup_ends (ends : rehearsal.script.EndsClosings)
    (farewells : List Farewell) :
    (rehearsal.beginGroup farewells).2.any GroupClosing.hangs = false := by
  induction farewells generalizing rehearsal with
  | nil => rfl
  | cons farewell others inductionHypothesis =>
      have stillEnds := (Works.askToClose rehearsal farewell).script ends
      have actEnds : ((rehearsal.onMeeting fun meeting =>
          meeting.beginClosing farewell).takeClosing
            farewell.identity).1.hangs = false :=
        takeClosing_ends ends farewell.identity
      unfold beginGroup
      simp only
      rw [List.any_cons, Bool.or_eq_false_iff]
      constructor
      · rw [GroupClosing.hangs, Act.due, actEnds]
        simp
      · apply inductionHypothesis
        split
        · exact stillEnds
        · exact stillEnds

/-- Only a closing can hold up the end of a meeting: openings and closings in
flight cannot. -/
theorem isHeldUp_of_endsClosings (ends : rehearsal.script.EndsClosings)
    (goesOn : rehearsal.isLoopStuck = false) :
    rehearsal.isHeldUp = false := by
  have unwinds := (Unwinds.unwind rehearsal rehearsal.unwindTime).1
  have stillEnds : rehearsal.ready.collected.script.EndsClosings :=
    unwinds.script ends
  rw [isHeldUp, goesOn, Bool.false_or]
  exact beginGroup_ends stillEnds _

/-- Closing a meeting completes its log unless a closing that never ends holds
it up. In whatever state a rehearsal is whose store is open and can be written
to, and however its openings and closings turn out, one of two things happens.
If nothing holds it up, to close the meeting comes to its end: every session
has been asked to close, the record file ends with the one footer and the text
file with the one closing block. If the regular check waits for a closing that
never ends, or the closing of a session left never ends, it does not come to
its end however long it takes, and nothing is written. Even then every session
is asked to close, unless it is the regular check that is stuck. Openings and
closings in flight hold up nothing, whether they fail, take long or never
end. -/
theorem close_completes_log_unless_held_up {options : MeetingOptions}
    {files : FileTree} {began : Moment} {script : Script} {begun : Rehearsal}
    (started :
      start (Meeting.new options storeOptions files began) script =
        (begun, .ok ()))
    (reached : Reaches begun rehearsal)
    (isOpen : rehearsal.meeting.store.isOpen = true)
    (writes : ∀ ended,
      (rehearsal.meeting.store.finalize rehearsal.meeting.files
        ended).result = .ok ()) :
    (rehearsal.isHeldUp = false →
      ∃ time closed,
        (∀ limit, time ≤ limit →
          rehearsal.closeWithin limit = (closed, .done)) ∧
        AsksAll rehearsal closed ∧
        ∃ ended,
          Store.IsFinalized storeOptions closed.meeting.store
            closed.meeting.files rehearsal.meeting.records ended) ∧
    (rehearsal.isHeldUp = true → ∀ limit,
      (rehearsal.closeWithin limit).2 = .hung ∧
        (rehearsal.closeWithin limit).1.meeting.store =
          rehearsal.meeting.store ∧
        (rehearsal.closeWithin limit).1.meeting.files =
          rehearsal.meeting.files) ∧
    (rehearsal.isLoopStuck = false → ∀ limit,
      rehearsal.unwindTime ≤ limit →
        AsksAll rehearsal (rehearsal.closeWithin limit).1) ∧
    (rehearsal.script.EndsClosings → rehearsal.isLoopStuck = false →
      rehearsal.isHeldUp = false) := by
  have sound := reached.isSound (start_isSound started)
  refine ⟨?_, ?_, ?_, ?_⟩
  · exact closeWithin_ends sound isOpen writes
  · exact closeWithin_of_isHeldUp sound.waits
  · intro goesOn limit isLate
    exact closeWithin_asksAll sound.waits sound.meeting.keyed goesOn isLate
  · exact isHeldUp_of_endsClosings

/-- Bob never gets a session, the session of Cleo, who leaves, never closes, and
that of Ada takes five seconds and then cannot be closed. -/
def stuckInFlight : Rehearsal × Except MeetingError Unit :=
  start Meeting.small
    ⟨Table.empty.insert "bob" [⟨0, false, true⟩],
      (Table.empty.insert "cleo" [⟨0, false, true⟩]).insert "ada"
        [⟨5000, true, false⟩]⟩

def comingAndGoing : List Direction :=
  [.handle (.joined "ada" none), .handle (.joined "bob" none),
    .handle (.joined "cleo" none), .handle (.left "cleo")]

theorem close_completes_log_of_stuckInFlight :
    let rehearsal := stuckInFlight.1.stepAll comingAndGoing
    stuckInFlight.2 = .ok () ∧
    rehearsal.meeting.store.isOpen = true ∧
    (∀ ended, (rehearsal.meeting.store.finalize rehearsal.meeting.files
      ended).result = .ok ()) ∧
    rehearsal.tasks.length = 2 ∧
    rehearsal.meeting.IsAttached "ada" ⟨0, "session-0"⟩ ∧
    ∃ time closed,
      (∀ limit, time ≤ limit →
        rehearsal.closeWithin limit = (closed, .done)) ∧
      .askedClose "ada" ⟨0, "session-0"⟩ ∈ closed.meeting.calls ∧
      ∃ ended,
        Store.IsFinalized Meeting.small.store.options closed.meeting.store
          closed.meeting.files rehearsal.meeting.records ended := by
  intro rehearsal
  have started : stuckInFlight = (stuckInFlight.1, .ok ()) :=
    Prod.ext rfl (by decide +kernel)
  have computed :
      rehearsal.meeting.store.isOpen = true ∧
      rehearsal.tasks.length = 2 ∧
      rehearsal.meeting.IsAttached "ada" ⟨0, "session-0"⟩ ∧
      rehearsal.isHeldUp = false := by
    decide +kernel
  obtain ⟨isOpen, inFlight, attached, goesOn⟩ := computed
  have reached : Reaches stuckInFlight.1 rehearsal :=
    Reaches.begun.stepAll comingAndGoing
  have sound := reached.isSound (start_isSound started)
  have writes :=
    (sound.meeting.logged.isRecording isOpen).finalize_ok rfl
  obtain ⟨completes, -⟩ :=
    close_completes_log_unless_held_up started reached isOpen writes
  obtain ⟨time, closed, closes, asked, ended, finalized⟩ := completes goesOn
  refine ⟨by rw [started], isOpen, writes, inFlight, attached, time, closed,
    closes, ?_, ended, finalized⟩
  exact asked "ada" ⟨0, "session-0"⟩ attached

/-- The session of Ada never closes. -/
def stuckAtLast : Rehearsal × Except MeetingError Unit :=
  start Meeting.small
    ⟨Table.empty, Table.empty.insert "ada" [⟨0, false, true⟩]⟩

/-- It is not so that closing a meeting always completes its log. -/
theorem one_session_holds_up_close :
    let rehearsal := stuckAtLast.1.stepAll [.handle (.joined "ada" none)]
    stuckAtLast.2 = .ok () ∧
    rehearsal.meeting.store.isOpen = true ∧
    (∀ ended, (rehearsal.meeting.store.finalize rehearsal.meeting.files
      ended).result = .ok ()) ∧
    ∀ limit,
      (rehearsal.closeWithin limit).2 = .hung ∧
        (rehearsal.closeWithin limit).1.meeting.store.isOpen = true := by
  intro rehearsal
  have started : stuckAtLast = (stuckAtLast.1, .ok ()) :=
    Prod.ext rfl (by decide +kernel)
  have computed :
      rehearsal.meeting.store.isOpen = true ∧ rehearsal.isHeldUp = true := by
    decide +kernel
  obtain ⟨isOpen, heldUp⟩ := computed
  have reached : Reaches stuckAtLast.1 rehearsal :=
    Reaches.begun.stepAll [.handle (.joined "ada" none)]
  have sound := reached.isSound (start_isSound started)
  have writes :=
    (sound.meeting.logged.isRecording isOpen).finalize_ok rfl
  refine ⟨by rw [started], isOpen, writes, ?_⟩
  intro limit
  obtain ⟨hung, sameStore, -⟩ :=
    closeWithin_of_isHeldUp sound.waits heldUp limit
  exact ⟨hung, by rw [sameStore]; exact isOpen⟩

end MeetingLog.Rehearsal
