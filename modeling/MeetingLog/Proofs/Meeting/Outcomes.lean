import MeetingLog.Proofs.Meeting.Groups

/-!
# What a move leads to

Everything a move can do to a meeting whose store takes every record is listed
here once, with the conditions under which it happens. What all moves have in
common is then found by going through this list.
-/

namespace MeetingLog

/-- `alwaysApplies move` means that the move applies to every meeting. -/
def Move.alwaysApplies : Move → Bool
  | .handle _ => true
  | .tell _ => true
  | .tick _ => true
  | .stopListening => true
  | _ => false

/-- The event of the room that comes with a move. -/
def Move.event? : Move → Option RoomEvent
  | .handle event => some event
  | .tell event => some event
  | _ => none

namespace Meeting

open MeetingLog.Files
open MeetingLog.Trace

/-- What is noted about an audio track. -/
def trackNote (identity : String) : Note :=
  Note.info ("Audio track subscribed from " ++ identity)

/-- What is noted when a pause ends. -/
def wakingNote : Note :=
  Note.info "Restarting transcription sessions after idle..."

/-- What is noted about another attempt to open a session. -/
def retryNote (identity : String) : Note :=
  Note.info ("Retrying transcription session for " ++ identity)

/-- What is noted when somebody speaks who is not tracked. -/
def strangerEntries (meeting : Meeting) (identity : String) : List Entry :=
  match meeting.participants.get? identity with
  | none =>
      [⟨meeting.now,
        Note.warning ("Transcript from untracked participant " ++
          identity)⟩]
  | some _ => []

/-- What is noted when a session could not be opened. -/
def openingFailureNote (identity reason : String) : Note :=
  Note.error ("Failed to start session for " ++ identity ++ ": " ++ reason)

/-- What is noted when a session has been opened. -/
def attachedNote (name identity : String) : Note :=
  Note.info ("Session " ++ name ++ " started for " ++ identity)

/-- What is noted about a session that nobody needs any more. -/
def lateNote (identity : String) : Note :=
  Note.debug ("Discarding late session for " ++ identity)

/-- `meeting.Hears move event` means that the meeting takes note of an event of
its room with the move: it is told of it, or it handles it and is not being
closed. -/
def Hears (meeting : Meeting) (move : Move) (event : RoomEvent) : Prop :=
  move = .tell event ∨ move = .handle event ∧ meeting.isClosed = false

theorem Hears.event?_eq {meeting : Meeting} {move : Move} {event : RoomEvent}
    (hears : meeting.Hears move event) : move.event? = some event := by
  rcases hears with rfl | ⟨rfl, -⟩
  · rfl
  · rfl

theorem Hears.unique {meeting : Meeting} {move : Move} {event other : RoomEvent}
    (hears : meeting.Hears move event) (hearsToo : meeting.Hears move other) :
    other = event :=
  Option.some.inj (hearsToo.event?_eq.symm.trans hears.event?_eq)

theorem Hears.alwaysApplies {meeting : Meeting} {move : Move}
    {event : RoomEvent} (hears : meeting.Hears move event) :
    ¬ move.alwaysApplies = false := by
  rcases hears with rfl | ⟨rfl, -⟩
  · exact Bool.noConfusion
  · exact Bool.noConfusion

theorem Hears.not_isCheck {meeting : Meeting} {move : Move} {event : RoomEvent}
    (hears : meeting.Hears move event) :
    ¬ (move = .checkIdle ∨ move = .checkRegularly) := by
  rcases hears with rfl | ⟨rfl, -⟩
  · simp
  · simp

/-- An event that is handled and taken note of is not dropped. -/
theorem Hears.not_isClosed {meeting : Meeting} {event other : RoomEvent}
    (hears : meeting.Hears (.handle event) other) :
    ¬ meeting.isClosed = true := by
  rcases hears with told | ⟨-, isOpen⟩
  · cases told
  · rw [isOpen]
    exact Bool.false_ne_true

/-- `meeting.listensTo move` means that the meeting is not told of an event with
the move while it is being closed. -/
def listensTo (meeting : Meeting) : Move → Bool
  | .tell _ => !meeting.isClosed
  | _ => true

theorem Hears.isClosed_eq {meeting : Meeting} {move : Move} {event : RoomEvent}
    (hears : meeting.Hears move event)
    (listens : meeting.listensTo move = true) : meeting.isClosed = false := by
  rcases hears with rfl | ⟨-, isOpen⟩
  · simpa [listensTo] using listens
  · exact isOpen

/-- `Effect recorder meeting move after` means that the move may turn the
meeting into `after`, if the recorder gives the records to the store. -/
inductive Effect (recorder : Recorder) (meeting : Meeting) :
    Move → Meeting → Prop
  /-- The move does not apply. -/
  | nothing {move : Move} :
      move.alwaysApplies = false →
      Effect recorder meeting move meeting
  /-- The meeting is being closed. -/
  | dropped {event : RoomEvent} {text : String} :
      meeting.isClosed = true →
      Effect recorder meeting (.handle event) (meeting.note (Note.debug text))
  | joinedAgain {move : Move} {identity text : String} {name : Option String} :
      meeting.Hears move (.joined identity name) →
      meeting.participants.contains identity = true →
      Effect recorder meeting move (meeting.note (Note.debug text))
  | joined {move : Move} {identity : String} {name : Option String}
      {store : Store} {files : FileTree} :
      meeting.Hears move (.joined identity name) →
      meeting.participants.get? identity = none →
      Store.Accepts recorder meeting.store meeting.files
        [.lifecycle ⟨meeting.clock, identity, .joined⟩] store files →
      Effect recorder meeting move
        { meeting with
          store := store
          files := files
          participants :=
            meeting.participants.insert identity
              (Participant.new identity (name.getD identity) meeting.clock
                meeting.elapsed).beginOpening
          openings :=
            meeting.openings ++ [⟨meeting.nextTicket, identity, false⟩]
          nextTicket := meeting.nextTicket + 1
          records :=
            meeting.records ++
              [.lifecycle ⟨meeting.clock, identity, .joined⟩]
          trace :=
            meeting.trace ++
              [⟨meeting.now, Note.info (connectedMessage identity)⟩] }
  | leftUnknown {move : Move} {identity text : String} :
      meeting.Hears move (.left identity) →
      meeting.participants.get? identity = none →
      Effect recorder meeting move (meeting.note (Note.debug text))
  | left {move : Move} {identity : String} {participant : Participant}
      {store : Store} {files : FileTree} :
      meeting.Hears move (.left identity) →
      meeting.participants.get? identity = some participant →
      Store.Accepts recorder meeting.store meeting.files
        [.lifecycle ⟨meeting.clock, identity, .left⟩] store files →
      Effect recorder meeting move
        { meeting with
          store := store
          files := files
          participants := meeting.participants.erase identity
          farewells := meeting.farewells ++ farewellOf participant
          leaving := meeting.leaving ++ farewellOf participant
          records :=
            meeting.records ++
              [.lifecycle ⟨meeting.clock, identity, .left⟩]
          trace :=
            meeting.trace ++
              [⟨meeting.now, Note.info (disconnectedMessage identity)⟩] }
  | trackUnknown {move : Move} {identity text : String} :
      meeting.Hears move (.trackSubscribed identity) →
      meeting.participants.get? identity = none →
      Effect recorder meeting move
        ((meeting.note (trackNote identity)).note (Note.debug text))
  /-- The participant has a session, or one is being opened. -/
  | trackServed {move : Move} {identity : String} {participant : Participant} :
      meeting.Hears move (.trackSubscribed identity) →
      meeting.participants.get? identity = some participant →
      participant.lacksSession = false →
      Effect recorder meeting move (meeting.note (trackNote identity))
  | woken {move : Move} {identity : String} {participant : Participant}
      {store : Store} {files : FileTree} :
      meeting.Hears move (.trackSubscribed identity) →
      meeting.participants.get? identity = some participant →
      participant.lacksSession = true →
      meeting.isPaused = true →
      Store.Accepts recorder meeting.store meeting.files
        ((meeting.lacking meeting.participants.keys).map
          (resumedRecord meeting.clock)) store files →
      Effect recorder meeting move
        ({ meeting with
            store := store
            files := files
            participants :=
              meeting.participants.map fun _ participant =>
                participant.wake meeting.elapsed
            isPaused := false
            records :=
              meeting.records ++
                (meeting.lacking meeting.participants.keys).map
                  (resumedRecord meeting.clock)
            trace :=
              meeting.trace ++ [Entry.mk meeting.now (trackNote identity)] ++
                [Entry.mk meeting.now wakingNote] }.requestOpenings
          (meeting.lacking meeting.participants.keys))
  | retried {move : Move} {identity : String} {participant : Participant} :
      meeting.Hears move (.trackSubscribed identity) →
      meeting.participants.get? identity = some participant →
      participant.lacksSession = true →
      meeting.isPaused = false →
      Effect recorder meeting move
        { meeting with
          participants :=
            meeting.participants.insert identity participant.beginOpening
          openings :=
            meeting.openings ++ [⟨meeting.nextTicket, identity, false⟩]
          nextTicket := meeting.nextTicket + 1
          trace :=
            meeting.trace ++ [⟨meeting.now, trackNote identity⟩] ++
              [⟨meeting.now, retryNote identity⟩] }
  | blank {move : Move} {identity spoken text : String} :
      meeting.Hears move (.utterance identity spoken) →
      Transcript.ofUtterance? meeting.clock identity spoken = none →
      Effect recorder meeting move (meeting.note (Note.debug text))
  | spoken {move : Move} {identity spoken : String} {transcript : Transcript}
      {store : Store} {files : FileTree} :
      meeting.Hears move (.utterance identity spoken) →
      Transcript.ofUtterance? meeting.clock identity spoken =
        some transcript →
      Store.Accepts recorder meeting.store meeting.files
        [.transcript transcript] store files →
      Effect recorder meeting move
        { meeting with
          store := store
          files := files
          participants :=
            meeting.participants.modify identity
              (Participant.speak transcript meeting.elapsed)
          records := meeting.records ++ [.transcript transcript]
          trace :=
            meeting.trace ++ meeting.strangerEntries identity ++
              [⟨meeting.now, Note.info (spokenMessage transcript)⟩] }
  | channelClosed : Effect recorder meeting .closeChannel meeting.closeChannel
  | openingBegun {ticket : Nat} {opening : Opening} :
      meeting.opening? ticket = some opening →
      opening.isBegun = false →
      Effect recorder meeting (.beginOpening ticket)
        (meeting.beginOpening opening)
  | openingFailed {ticket : Nat} {opening : Opening} {reason : String} :
      meeting.opening? ticket = some opening →
      opening.isBegun = true →
      Effect recorder meeting (.finishOpening ticket (.failed reason))
        { meeting.dropOpening opening.ticket with
          participants :=
            meeting.participants.modify opening.identity
              Participant.endOpening
          trace :=
            meeting.trace ++
              [⟨meeting.now, openingFailureNote opening.identity reason⟩] }
  | attached {ticket : Nat} {opening : Opening} {name : String}
      {participant : Participant} :
      meeting.opening? ticket = some opening →
      opening.isBegun = true →
      meeting.participants.get? opening.identity = some participant →
      participant.session = none →
      Effect recorder meeting (.finishOpening ticket (.opened name))
        { meeting.dropOpening opening.ticket with
          participants :=
            meeting.participants.insert opening.identity
              { participant.endOpening with
                session := some ⟨meeting.nextSession, name⟩ }
          nextSession := meeting.nextSession + 1
          calls :=
            meeting.calls ++
              [.opened opening.identity ⟨meeting.nextSession, name⟩]
          trace :=
            meeting.trace ++
              [⟨meeting.now, attachedNote name opening.identity⟩] }
  /-- The participant has another session by then. -/
  | discarded {ticket : Nat} {opening : Opening} {name : String}
      {participant : Participant} {held : Session} :
      meeting.opening? ticket = some opening →
      opening.isBegun = true →
      meeting.participants.get? opening.identity = some participant →
      participant.session = some held →
      Effect recorder meeting (.finishOpening ticket (.opened name))
        (({ meeting.dropOpening opening.ticket with
            participants :=
              meeting.participants.insert opening.identity
                participant.endOpening
            nextSession := meeting.nextSession + 1
            calls :=
              meeting.calls ++
                [Call.opened opening.identity ⟨meeting.nextSession, name⟩]
            }.note (lateNote opening.identity)).handOver
          [⟨opening.identity, ⟨meeting.nextSession, name⟩⟩])
  /-- The participant has left by then. -/
  | orphaned {ticket : Nat} {opening : Opening} {name : String} :
      meeting.opening? ticket = some opening →
      opening.isBegun = true →
      meeting.participants.get? opening.identity = none →
      Effect recorder meeting (.finishOpening ticket (.opened name))
        (({ meeting.dropOpening opening.ticket with
            nextSession := meeting.nextSession + 1
            calls :=
              meeting.calls ++
                [Call.opened opening.identity ⟨meeting.nextSession, name⟩]
            }.note (lateNote opening.identity)).handOver
          [⟨opening.identity, ⟨meeting.nextSession, name⟩⟩])
  | closingBegun {farewell : Farewell} :
      farewell ∈ meeting.leaving →
      Effect recorder meeting (.beginClosing farewell)
        (meeting.beginClosing farewell)
  | closingDone {farewell : Farewell} :
      farewell ∈ meeting.closings →
      Effect recorder meeting (.finishClosing farewell none)
        (meeting.finishClosing farewell)
  | closingFailed {farewell : Farewell} {reason : String} :
      farewell ∈ meeting.closings →
      Effect recorder meeting (.finishClosing farewell (some reason))
        (meeting.noteClosingFailure farewell reason)
  | paused {move : Move} {timeout : Nat} {store : Store}
      {files : FileTree} :
      move = .checkIdle ∨ move = .checkRegularly →
      meeting.options.idleTimeout = some timeout →
      meeting.isSilent timeout = true →
      Store.Accepts recorder meeting.store meeting.files
        (meeting.listeners.map (pausedRecord meeting.clock)) store files →
      Effect recorder meeting move
        { meeting with
          store := store
          files := files
          participants :=
            meeting.participants.map fun _ participant => participant.hush
          isPaused := true
          farewells := meeting.farewells ++ meeting.remainingSessions
          leaving := meeting.leaving ++ meeting.remainingSessions
          records :=
            meeting.records ++
              meeting.listeners.map (pausedRecord meeting.clock)
          trace :=
            meeting.trace ++ [⟨meeting.now, pauseNote timeout⟩] ++
              meeting.listeners.map fun participant =>
                ⟨meeting.now, meeting.pausedNote participant⟩ }
  | checkingStopped : Effect recorder meeting .stopChecking meeting.stopChecking
  | ticked (milliseconds : Nat) :
      Effect recorder meeting (.tick milliseconds) (meeting.tick milliseconds)
  | stopped : Effect recorder meeting .stopListening meeting.stopListening
  | waited :
      meeting.isQuiet = true →
      Effect recorder meeting .endWaiting meeting.endWaiting
  | abandoned :
      meeting.isClosed = true →
      Effect recorder meeting .abandonPending
        meeting.noteGrace.abandonPending.endWaiting
  | collected :
      meeting.isUnwound = true →
      Effect recorder meeting .collectSessions
        { meeting with
          participants :=
            meeting.participants.map fun _ participant =>
              participant.release
          isCollected := true
          farewells := meeting.farewells ++ meeting.remainingSessions
          leaving := meeting.leaving ++ meeting.remainingSessions }
  | finished {failures : Nat} :
      meeting.isCleared = true →
      Effect recorder meeting (.finish failures) (meeting.finish failures).1

/-- `Outcome meeting move after` means that the move may turn the meeting into
`after`. -/
abbrev Outcome : Meeting → Move → Meeting → Prop :=
  Effect Store.appendCore

variable {recorder : Recorder} {meeting : Meeting}

theorem join_effect {move : Move} {identity : String} {name : Option String}
    (hears : meeting.Hears move (.joined identity name))
    (taken : (meeting.join identity name recorder).2.isOk = true) :
    Effect recorder meeting move (meeting.join identity name recorder).1 := by
  unfold join at taken ⊢
  split
  · next present => exact .joinedAgain hears present
  · next absent =>
      rw [if_neg absent] at taken
      simp only at taken ⊢
      have missing : meeting.participants.get? identity = none := by
        simpa [Table.contains] using absent
      split at taken
      · simp [Except.isOk, Except.toBool] at taken
      · next recorded result =>
          obtain ⟨store, files, takes, rfl⟩ := append_ok result
          exact .joined hears missing takes

theorem leave_effect {move : Move} {identity : String}
    (hears : meeting.Hears move (.left identity))
    (taken : (meeting.leave identity recorder).2.isOk = true) :
    Effect recorder meeting move (meeting.leave identity recorder).1 := by
  unfold leave at taken ⊢
  cases found : meeting.participants.get? identity with
  | none =>
      simp only [participant?, found]
      exact .leftUnknown hears found
  | some participant =>
      simp only [participant?, found] at taken ⊢
      split at taken
      · simp [Except.isOk, Except.toBool] at taken
      · next recorded result =>
          obtain ⟨store, files, takes, rfl⟩ := append_ok result
          exact .left hears found takes

theorem countSpeech_eq (meeting : Meeting) (identity : String)
    (transcript : Transcript) :
    meeting.countSpeech identity transcript =
      { meeting with
        participants :=
          meeting.participants.modify identity
            (Participant.speak transcript meeting.elapsed)
        trace := meeting.trace ++ meeting.strangerEntries identity } := by
  unfold countSpeech strangerEntries
  cases found : meeting.participants.get? identity with
  | none => simp [participant?, found, note, Table.modify]
  | some participant => simp [participant?, found, changeParticipant]

theorem hear_effect {move : Move} {identity text : String}
    (hears : meeting.Hears move (.utterance identity text))
    (taken : (meeting.hear identity text recorder).2.isOk = true) :
    Effect recorder meeting move (meeting.hear identity text recorder).1 := by
  unfold hear at taken ⊢
  cases said : Transcript.ofUtterance? meeting.clock identity text with
  | none => exact .blank hears said
  | some transcript =>
      simp only [said, countSpeech_eq] at taken ⊢
      generalize result : Meeting.append _ _ recorder = reached at taken ⊢
      obtain ⟨recorded, error | success⟩ := reached
      · simp [Except.isOk, Except.toBool] at taken
      · obtain ⟨store, files, takes, rfl⟩ := append_ok result
        exact .spoken hears said takes

theorem subscribeTrack_effect (keyed : meeting.IsKeyed) {move : Move}
    {identity : String} (hears : meeting.Hears move (.trackSubscribed identity))
    (taken : (meeting.subscribeTrack identity recorder).2.isOk = true) :
    Effect recorder meeting move
      (meeting.subscribeTrack identity recorder).1 := by
  unfold subscribeTrack at taken ⊢
  cases found : meeting.participants.get? identity with
  | none =>
      have missing :
          (meeting.note (trackNote identity)).participant? identity = none :=
        found
      simp only [trackNote] at missing
      simp only [missing]
      exact .trackUnknown hears found
  | some participant =>
      have present :
          (meeting.note (trackNote identity)).participant? identity =
            some participant :=
        found
      simp only [trackNote] at present
      simp only [present] at taken ⊢
      by_cases lacks : participant.lacksSession = true
      · rw [if_pos lacks] at taken ⊢
        by_cases isPaused : meeting.isPaused = true
        · have stillPaused :
              (meeting.note (trackNote identity)).isPaused = true :=
            isPaused
          simp only [trackNote] at stillPaused
          rw [if_pos stillPaused] at taken ⊢
          generalize result : Meeting.resume _ recorder = reached at taken ⊢
          obtain ⟨recorded, error | success⟩ := reached
          · simp [Except.isOk, Except.toBool] at taken
          · obtain ⟨store, files, takes, rfl⟩ :=
              resume_ok (by exact keyed) result
            exact .woken hears found lacks isPaused takes
        · have stillActive :
              ¬ (meeting.note (trackNote identity)).isPaused = true :=
            isPaused
          simp only [trackNote] at stillActive
          rw [if_neg stillActive]
          have retried : Effect recorder meeting _ _ :=
            .retried hears found lacks (by simpa using isPaused)
          simpa [retry, changeParticipant, requestOpening, note,
            Table.modify, found, trackNote, retryNote, now] using retried
      · rw [if_neg lacks]
        exact .trackServed hears found (by simpa using lacks)

theorem isOk_map {α β : Type} (result : Except StoreError α) (f : α → β) :
    (result.map f).isOk = result.isOk := by
  cases result <;> rfl

/-- What becomes of an event that a meeting takes note of. -/
theorem receive_effect (keyed : meeting.IsKeyed) {move : Move}
    {event : RoomEvent} (hears : meeting.Hears move event)
    (taken : (meeting.receive event recorder).2.isOk = true) :
    Effect recorder meeting move (meeting.receive event recorder).1 := by
  cases event with
  | joined identity name =>
      simp only [receive, isOk_map] at taken ⊢
      exact join_effect hears taken
  | left identity => exact leave_effect hears taken
  | trackSubscribed identity =>
      simp only [receive, isOk_map] at taken ⊢
      exact subscribeTrack_effect keyed hears taken
  | utterance identity text =>
      simp only [receive, isOk_map] at taken ⊢
      exact hear_effect hears taken

theorem handle_effect (keyed : meeting.IsKeyed) {event : RoomEvent}
    (taken : (meeting.handle event recorder).2.isOk = true) :
    Effect recorder meeting (.handle event)
      (meeting.handle event recorder).1 := by
  unfold handle at taken ⊢
  by_cases isClosed : meeting.isClosed = true
  · rw [if_pos isClosed]
    exact .dropped isClosed
  · rw [if_neg isClosed] at taken ⊢
    exact receive_effect keyed (.inr ⟨rfl, by simpa using isClosed⟩) taken

theorem finishOpening_effect (keyed : meeting.IsKeyed) {ticket : Nat}
    {opening : Opening} (found : meeting.opening? ticket = some opening)
    (begun : opening.isBegun = true) (outcome : OpeningOutcome) :
    Effect recorder meeting (.finishOpening ticket outcome)
      (meeting.finishOpening opening outcome).1 := by
  cases outcome with
  | failed reason => exact .openingFailed found begun
  | opened name =>
      simp only [finishOpening, attach, participant?, newSession, call,
        dropOpening]
      cases tracked : meeting.participants.get? opening.identity with
      | none => exact .orphaned found begun tracked
      | some participant =>
          have same := keyed opening.identity participant tracked
          cases held : participant.session with
          | none =>
              have attached :
                  Effect recorder meeting
                    (.finishOpening ticket (.opened name)) _ :=
                .attached found begun tracked held
              simpa [held, note, putParticipant, dropOpening, same,
                Participant.endOpening, attachedNote, now] using attached
          | some session =>
              have discarded :
                  Effect recorder meeting
                    (.finishOpening ticket (.opened name)) _ :=
                .discarded found begun tracked held
              simpa [held, note, putParticipant, dropOpening, same,
                Participant.endOpening, handOver, lateNote, now]
                using discarded

theorem checkIdle_effect (keyed : meeting.IsKeyed) {move : Move}
    (isCheck : move = .checkIdle ∨ move = .checkRegularly)
    {after : Meeting} {farewells : Option (List Farewell)}
    (result : meeting.checkIdle recorder = (after, .ok farewells)) :
    Effect recorder meeting move after := by
  have nothing : Effect recorder meeting move meeting := by
    rcases isCheck with rfl | rfl <;> exact .nothing rfl
  cases timeout : meeting.options.idleTimeout with
  | none =>
      rw [checkIdle, timeout] at result
      obtain ⟨rfl, -⟩ := Prod.mk.inj result
      exact nothing
  | some limit =>
      by_cases silent : meeting.isSilent limit = true
      · rw [checkIdle_of_isSilent timeout silent recorder] at result
        generalize paused : meeting.pause limit recorder = reached at result
        obtain ⟨recorded, error | farewells⟩ := reached
        · simp [Except.map] at result
        · obtain ⟨rfl, -⟩ := Prod.mk.inj result
          obtain ⟨-, store, files, takes, rfl⟩ := pause_ok keyed paused
          exact .paused isCheck timeout silent takes
      · rw [checkIdle_of_not_isSilent timeout (by simpa using silent)
          recorder]
          at result
        obtain ⟨rfl, -⟩ := Prod.mk.inj result
        exact nothing

/-- Every move of a meeting has one of the effects, if the store takes the
records that the move gives it. -/
theorem perform_effect (keyed : meeting.IsKeyed) {move : Move}
    (taken : meeting.takes move recorder = true) :
    Effect recorder meeting move (meeting.perform move recorder) := by
  cases move with
  | handle event => exact handle_effect keyed taken
  | tell event => exact receive_effect keyed (.inl rfl) taken
  | closeChannel => exact .channelClosed
  | beginOpening ticket =>
      cases found : meeting.opening? ticket with
      | none =>
          simp only [perform, found]
          exact .nothing rfl
      | some opening =>
          simp only [perform, found]
          split
          · exact .nothing rfl
          · next waiting =>
              exact .openingBegun found (by simpa using waiting)
  | finishOpening ticket outcome =>
      cases found : meeting.opening? ticket with
      | none =>
          simp only [perform, found]
          exact .nothing rfl
      | some opening =>
          simp only [perform, found]
          split
          · next begun => exact finishOpening_effect keyed found begun outcome
          · exact .nothing rfl
  | beginClosing farewell =>
      simp only [perform]
      split
      · next member => exact .closingBegun (by simpa using member)
      · exact .nothing rfl
  | finishClosing farewell failure =>
      simp only [perform]
      split
      · next member =>
          cases failure with
          | none => exact .closingDone (by simpa using member)
          | some reason => exact .closingFailed (by simpa using member)
      · exact .nothing rfl
  | checkIdle =>
      simp only [perform]
      generalize result : meeting.checkIdle recorder = reached
      obtain ⟨recorded, error | farewells⟩ := reached
      · simp [takes, result, Except.isOk, Except.toBool] at taken
      · exact checkIdle_effect keyed (.inl rfl) result
  | checkRegularly =>
      simp only [perform]
      generalize result : meeting.checkIdle recorder = reached
      obtain ⟨recorded, error | farewells⟩ := reached
      · simp [takes, result, Except.isOk, Except.toBool] at taken
      · exact checkIdle_effect keyed (.inr rfl) result
  | stopChecking => exact .checkingStopped
  | tick milliseconds => exact .ticked milliseconds
  | stopListening => exact .stopped
  | endWaiting =>
      simp only [perform]
      split
      · next isQuiet => exact .waited isQuiet
      · exact .nothing rfl
  | abandonPending =>
      simp only [perform]
      split
      · next isClosed => exact .abandoned isClosed
      · exact .nothing rfl
  | collectSessions =>
      simp only [perform]
      split
      · next isUnwound => exact .collected isUnwound
      · exact .nothing rfl
  | finish failures =>
      simp only [perform]
      split
      · next isCleared => exact .finished isCleared
      · exact .nothing rfl

theorem perform_outcome (keyed : meeting.IsKeyed) {move : Move}
    (taken : meeting.takes move = true) :
    Outcome meeting move (meeting.perform move) :=
  perform_effect keyed taken

end Meeting

end MeetingLog
