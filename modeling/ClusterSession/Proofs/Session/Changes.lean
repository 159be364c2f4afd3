/-
  ClusterSession: what a session task does to the state.

  * `Turn.numbers?` and `Turn.becomes?`: a task fixes the number of the session when a member has
    registered it, and moves the status as the outcomes of its requests tell.
  * `handle_state`: it does nothing else to the state.
  * `moveTo_status_of_live`: a session that is live goes wherever it is moved.
-/
import ClusterSession.Proofs.Session.Phases

namespace ClusterSession

namespace SessionState

/-- The state with the number fixed, if there is one to fix, and then moved, if it is to move. -/
def change (s : SessionState) (id : Option UInt64) (next : Option SessionStatus) : SessionState :=
  let s := id.elim s fun id => (s.assign id).2
  next.elim s fun next => (s.moveTo next).2

section
variable (s : SessionState)

/-- The rest of the state is not the task's to change. -/
theorem change_rest (id : Option UInt64) (next : Option SessionStatus) :
    (s.change id next).clientId = s.clientId ∧
      (s.change id next).commandResponse = s.commandResponse ∧
      (s.change id next).completeIndex = s.completeIndex := by
  have hassign : ∀ id, (s.assign id).2.clientId = s.clientId ∧
      (s.assign id).2.commandResponse = s.commandResponse ∧
      (s.assign id).2.completeIndex = s.completeIndex := by
    intro id
    rw [assign_eq]
    exact ⟨rfl, rfl, rfl⟩
  have hmove : ∀ (u : SessionState) next, (u.moveTo next).2.clientId = u.clientId ∧
      (u.moveTo next).2.commandResponse = u.commandResponse ∧
      (u.moveTo next).2.completeIndex = u.completeIndex := by
    intro u next
    unfold moveTo
    split <;> exact ⟨rfl, rfl, rfl⟩
  cases id <;> cases next <;> simp [change, hassign, hmove]

theorem change_sessionId (id : Option UInt64) (next : Option SessionStatus) :
    (s.change id next).sessionId = s.sessionId.or id := by
  have hassign : ∀ id, (s.assign id).2.sessionId = s.sessionId.or (some id) := by
    intro id
    rw [assign_eq]
  cases id <;> cases next <;> simp [change, hassign]

theorem assign_status (id : UInt64) : (s.assign id).2.status = s.status := by
  rw [assign_eq]

/-- The number has nothing to do with the status. -/
theorem change_status (id : Option UInt64) (next : Option SessionStatus) :
    (s.change id next).status = (s.change none next).status := by
  cases id with
  | none => rfl
  | some id =>
    cases next with
    | none => exact s.assign_status id
    | some next =>
      show ((s.assign id).2.moveTo next).2.status = (s.moveTo next).2.status
      unfold moveTo
      rw [s.assign_status id]
      split
      · rfl
      · exact s.assign_status id

/-- The status stays, or is the one that the state was moved to. -/
theorem change_status_cases (id : Option UInt64) (next : Option SessionStatus) :
    (s.change id next).status = s.status ∨ next = (s.change id next).status := by
  rw [change_status]
  cases next with
  | none => exact .inl rfl
  | some next =>
    show (s.moveTo next).2.status = _ ∨ some next = (s.moveTo next).2.status
    unfold moveTo
    split
    · exact .inr rfl
    · exact .inl rfl

end

variable {s : SessionState}

theorem isLive_iff_status :
    s.isLive = true ↔ s.status = some .opened ∨ s.status = some .unstable := by
  simp [isLive]

theorem isEnded_iff_status :
    s.isEnded = true ↔ s.status = some .expired ∨ s.status = some .closed := by
  unfold isEnded
  rcases s.status with _ | (_ | _ | _ | _) <;> simp [SessionStatus.isTerminal]

/-- A session that is live goes wherever it is moved. -/
theorem moveTo_status_of_live (h : s.isLive = true) (next : SessionStatus) :
    (s.moveTo next).2.status = some next := by
  unfold moveTo
  rcases isLive_iff_status.1 h with hs | hs <;> rw [hs] <;> cases next <;>
    simp [SessionStatus.mayFollow, SessionStatus.canBecome, hs]

theorem change_status_of_live (h : s.isLive = true) (id : Option UInt64)
    (next : Option SessionStatus) : (s.change id next).status = next.or s.status := by
  rw [change_status]
  cases next with
  | none => rfl
  | some next => exact moveTo_status_of_live h next

/-- A session that is not there yet can be opened or closed. -/
theorem moveTo_status_of_unset (h : s.status = none) {next : SessionStatus}
    (hn : next = .opened ∨ next = .closed) : (s.moveTo next).2.status = some next := by
  unfold moveTo
  rw [h, if_pos (by simpa [SessionStatus.mayFollow] using hn)]

end SessionState

namespace Turn

/-- The number that the task fixes when it handles an input. -/
def numbers? : Input → Option UInt64
  | .event (.registered _ result) =>
    match refusal? result with
    | .ok r => some r.session
    | .error _ => none
  | _ => none

/-- Where a failure makes a live session go: nowhere, if a leader is known. -/
def unsettles? (t : Turn) : Option SessionStatus :=
  if t.selector.leader.isSome then none else some .unstable

/-- The status that the task moves to when it handles an input. -/
def becomes? (t : Turn) : Input → Option SessionStatus
  | .command (.opening _) | .event (.timer _ _) => none
  | .command (.closing _) =>
    if t.state.isEnded || t.session.closing || t.state.sessionId.isSome || t.session.registering
    then none
    else some .closed
  | .event (.registered _ result) =>
    match refusal? result with
    | .ok _ => some .opened
    | .error _ => if t.session.closing then some .closed else none
  | .event (.keptAlive result) =>
    if t.session.closing || !t.state.isLive then none
    else match Outcome.of (result.map (·.toVerdict)) with
      | .ok => some .opened
      | .unknownSession => some .expired
      | .failed => t.unsettles?
  | .event (.unregistered result) =>
    if t.state.isEnded then none
    else match Outcome.of (result.map (·.toVerdict)) with
      | .ok => some .closed
      | .unknownSession => some .expired
      | .failed => t.unsettles?

/-! ## The end is asked for -/

/-- A caller waits for the end. -/
def awaitEnd (w : Waiter) (t : Turn) : Turn :=
  t.update fun s => { s with closeWaiters := s.closeWaiters ++ [w] }

/-- A caller waits for the end, and is the first to ask for it. -/
def beginEnd (w : Waiter) (t : Turn) : Turn :=
  ((t.awaitEnd w).update fun s => { s with closing := true }).cancel .keepAlive

section
variable (t : Turn) (w : Waiter)

@[simp] theorem beginEnd_state : (t.beginEnd w).state = t.state := by
  simp [beginEnd, awaitEnd]

@[simp] theorem beginEnd_session : (t.beginEnd w).session =
    { t.session with
      closing := true, closeWaiters := t.session.closeWaiters ++ [w], keepAliveTimer := none } := by
  simp [beginEnd, awaitEnd, Session.setTimer]

/-- What becomes of a caller who asks for the end, as the task stands. -/
theorem onClose_eq : t.onClose w =
    if t.state.isEnded then t.resolve w (.ok ())
    else if t.session.closing then t.awaitEnd w
    else if t.state.sessionId.isSome then (t.beginEnd w).unregister
    else if t.session.registering then (t.beginEnd w).failOpen .sessionClosed
    else ((((t.beginEnd w).failOpen .sessionClosed).cancel .register).become
      .closed).completeClose := by
  have hstate := t.beginEnd_state w
  have hregistering : ((t.beginEnd w).failOpen .sessionClosed).session.registering =
      t.session.registering := by simp
  unfold onClose
  rw [← hstate, ← hregistering]
  rfl

end

/-! ## What inputs do to the state -/

section
variable (t : Turn)

theorem onOpen_state (w : Waiter) : (t.onOpen w).state = t.state := by
  unfold onOpen
  split
  · rfl
  · rfl
  · rfl
  · rfl
  · split
    · rfl
    · dsimp only
      split <;> rfl

theorem onTimer_state (id : Nat) (purpose : Purpose) : (t.onTimer id purpose).state = t.state := by
  unfold onTimer fired
  cases purpose <;> dsimp only <;> split <;> first | rfl | (split <;> simp) | simp

theorem onClose_state (w : Waiter) :
    (t.onClose w).state = t.state.change none (t.becomes? (.command (.closing w))) := by
  rw [onClose_eq, becomes?]
  cases t.state.isEnded with
  | true => rfl
  | false =>
    cases t.session.closing with
    | true => rfl
    | false =>
      cases t.state.sessionId.isSome with
      | true => simp [SessionState.change]
      | false => cases t.session.registering <;> simp [SessionState.change]

theorem onRegistered_state (strategy : Strategy) (attempt : UInt32)
    (result : Except ConnectionError RegisterResponse) :
    (t.onRegistered strategy attempt result).state =
      t.state.change (numbers? (.event (.registered attempt result)))
        (t.becomes? (.event (.registered attempt result))) := by
  simp only [onRegistered, numbers?, becomes?]
  cases refusal? result with
  | ok r =>
    show (onAccepted r _).state = ((t.state.assign r.session).2.moveTo .opened).2
    unfold onAccepted
    dsimp only
    split <;> simp [scheduleKeepAlive]
  | error failure =>
    show (onRefused _ _ _).state = t.state.change none _
    unfold onRefused
    cases hclosing : t.session.closing with
    | true => simp [hclosing, SessionState.change]
    | false =>
      rw [if_neg (by simp [hclosing])]
      dsimp only [consult]
      split <;> simp [SessionState.change]

theorem onHeartbeatFailed_state : t.onHeartbeatFailed.state = t.state.change none t.unsettles? := by
  unfold onHeartbeatFailed unsettles?
  split <;> simp [scheduleKeepAlive, SessionState.change]

theorem onUnregisterFailed_state :
    t.onUnregisterFailed.state = t.state.change none t.unsettles? := by
  unfold onUnregisterFailed unsettles?
  split <;> simp [SessionState.change]

theorem onKeptAlive_state (result : Except ConnectionError KeepAliveResponse) :
    (t.onKeptAlive result).state =
      t.state.change none (t.becomes? (.event (.keptAlive result))) := by
  simp only [onKeptAlive, becomes?]
  split
  · rfl
  · cases result with
    | error e => exact t.onHeartbeatFailed_state
    | ok r =>
      rw [show (Except.ok r).map (·.toVerdict) = .ok r.toVerdict from rfl]
      cases Outcome.of (.ok r.toVerdict) with
      | ok => simp [onRenewed, scheduleKeepAlive, SessionState.change]
      | unknownSession => simp [SessionState.change]
      | failed => exact t.onHeartbeatFailed_state

theorem onUnregistered_state (result : Except ConnectionError UnregisterResponse) :
    (t.onUnregistered result).state =
      t.state.change none (t.becomes? (.event (.unregistered result))) := by
  simp only [onUnregistered, becomes?]
  split
  · rfl
  · cases Outcome.of (result.map (·.toVerdict)) with
    | failed => exact t.onUnregisterFailed_state
    | _ => simp [finishClose, SessionState.change]

/-- **What a task does to the state.** -/
theorem handle_state (strategy : Strategy) (i : Input) :
    (t.handle strategy i).state = t.state.change (numbers? i) (t.becomes? i) := by
  rcases i with (w | w) | (⟨id, purpose⟩ | ⟨attempt, result⟩ | result | result)
  · exact t.onOpen_state w
  · exact t.onClose_state w
  · exact t.onTimer_state id purpose
  · exact t.onRegistered_state strategy attempt result
  · exact t.onKeptAlive_state result
  · exact t.onUnregistered_state result

end

end Turn

end ClusterSession
