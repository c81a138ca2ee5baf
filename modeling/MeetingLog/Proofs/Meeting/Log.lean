import MeetingLog.Proofs.Meeting.Runs
import MeetingLog.Proofs.Store.Contents

/-!
# The log of a meeting

The store of a meeting holds exactly the records that the meeting has given it,
from the beginning on and after the end.
-/

namespace MeetingLog.Meeting

open MeetingLog.Calendar
open MeetingLog.Files

variable {meeting : Meeting} {storeOptions : StoreOptions}

/-- `IsLogged storeOptions meeting` means that the store of the meeting holds the
records of the meeting. -/
def IsLogged (storeOptions : StoreOptions) (meeting : Meeting) : Prop :=
  Store.Holds storeOptions meeting.store meeting.files meeting.records

theorem Outcome.isLogged {move : Move} {after : Meeting}
    (logged : meeting.IsLogged storeOptions)
    (outcome : Outcome meeting move after) :
    after.IsLogged storeOptions := by
  cases outcome with
  | joined hears absent takes => exact logged.takes takes
  | left hears found takes => exact logged.takes takes
  | woken hears found lacks isPaused takes =>
      rw [requestOpenings_eq]
      exact logged.takes takes
  | spoken hears said takes => exact logged.takes takes
  | paused isCheck timeout silent takes => exact logged.takes takes
  | finished =>
      rw [finish_eq]
      exact logged.finalize _
  | _ => exact logged

theorem Outcome.isRecording {move : Move} {after : Meeting}
    (recording :
      Store.IsRecording storeOptions meeting.store meeting.files
        meeting.records)
    (outcome : Outcome meeting move after)
    (goesOn : ∀ failures, move ≠ .finish failures) :
    Store.IsRecording storeOptions after.store after.files
      after.records := by
  cases outcome with
  | joined hears absent takes => exact recording.takes takes
  | left hears found takes => exact recording.takes takes
  | woken hears found lacks isPaused takes =>
      rw [requestOpenings_eq]
      exact recording.takes takes
  | spoken hears said takes => exact recording.takes takes
  | paused isCheck timeout silent takes => exact recording.takes takes
  | finished => exact absurd rfl (goesOn _)
  | _ => exact recording

theorem performAll_isLogged {begun : Meeting} (keyed : begun.IsKeyed)
    (logged : begun.IsLogged storeOptions) {moves : List Move}
    (taken : begun.takesAll moves = true) :
    (begun.performAll moves).IsLogged storeOptions :=
  performAll_induction
    (motive := fun _ meeting => meeting.IsLogged storeOptions) keyed logged
    taken fun _ _ _ _ _ _ held outcome => outcome.isLogged held

theorem performAll_isRecording {begun : Meeting} (keyed : begun.IsKeyed)
    (recording :
      Store.IsRecording storeOptions begun.store begun.files begun.records)
    {moves : List Move} (taken : begun.takesAll moves = true)
    (goesOn : ∀ failures, Move.finish failures ∉ moves) :
    Store.IsRecording storeOptions (begun.performAll moves).store
      (begun.performAll moves).files (begun.performAll moves).records := by
  refine performAll_induction
    (motive := fun _ meeting =>
      Store.IsRecording storeOptions meeting.store meeting.files
        meeting.records)
    keyed recording taken ?_
  intro done move meeting after member _ held outcome
  refine outcome.isRecording held ?_
  rintro failures rfl
  exact goesOn failures member

theorem start_isRecording {options : MeetingOptions} {files : FileTree}
    {began : Moment} {begun : Meeting}
    (started :
      (Meeting.new options storeOptions files began).start =
        (begun, .ok ())) :
    Store.IsRecording storeOptions begun.store begun.files
      begun.records := by
  obtain ⟨result, rfl⟩ := start_ok started
  exact Store.start_isRecording result

theorem start_isLogged {options : MeetingOptions} {files : FileTree}
    {began : Moment} {begun : Meeting}
    (started :
      (Meeting.new options storeOptions files began).start =
        (begun, .ok ())) :
    begun.IsLogged storeOptions :=
  .inl (start_isRecording started)

end MeetingLog.Meeting
