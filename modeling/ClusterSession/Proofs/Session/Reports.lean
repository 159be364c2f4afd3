/-
  ClusterSession: what a session task does to the selector.

  * `Turn.operation?`: a task takes over what a member reports that has registered or
    renewed its session, and forgets a leader that was known when a request has failed.
  * `handle_selector`: it does nothing else to the selector.
  * `handle_of_failed`: a request is sent again at once only when a leader was known, and
    the task forgets it first.
-/
import ClusterSession.Proofs.Selector.Orders
import ClusterSession.Proofs.Session.Phases

namespace ClusterSession

/-- A leader that is known afterwards is known from it. -/
def Selector.Operation.setsLeader : Selector.Operation → Bool
  | reset leader _ => leader.isSome
  | clearLeader | next | rewind => false

/-- The leader after an operation. -/
theorem Selector.apply_leader (s : Selector) (o : Selector.Operation) :
    (s.apply o).leader =
      match o with
      | .reset leader _ => leader
      | .clearLeader => none
      | .next | .rewind => s.leader := by
  cases o with
  | next =>
    obtain ⟨position, he⟩ := s.next_eq
    show s.next.2.leader = s.leader
    rw [he]
  | _ => rfl

/-- A leader that is not known is known only after an operation that sets one. -/
theorem Selector.apply_leader_of_none {s : Selector} {o : Selector.Operation}
    (h : s.leader = none) (ho : o.setsLeader = false) : (s.apply o).leader = none := by
  rw [s.apply_leader]
  cases o with
  | reset leader _ => exact Option.not_isSome_iff_eq_none.1 (Bool.eq_false_iff.1 ho)
  | clearLeader => rfl
  | _ => exact h

/-- Whether a leader is known, as a number. -/
def Selector.known (s : Selector) : Nat := s.leader.isSome.toNat

theorem Selector.apply_known_le (s : Selector) (o : Selector.Operation) :
    (s.apply o).known ≤ s.known + o.setsLeader.toNat := by
  unfold known
  rw [s.apply_leader]
  cases o with
  | reset leader _ => exact Nat.le_add_left _ _
  | clearLeader => exact Nat.zero_le _
  | next => exact Nat.le_refl _
  | rewind => exact Nat.le_refl _

/-- The outcome of a heartbeat. -/
def Input.beat? : Input → Option Outcome
  | event (.keptAlive result) => some (.of (result.map (·.toVerdict)))
  | _ => none

/-- An outcome that is not what was asked for. -/
def Input.failed : Input → Bool
  | event (.registered _ result) => !(Turn.refusal? result).toBool
  | event (.keptAlive result) => Outcome.of (result.map (·.toVerdict)) ≠ .ok
  | event (.unregistered result) => Outcome.of (result.map (·.toVerdict)) ≠ .ok
  | command _ | event (.timer _ _) => false

namespace Turn

/-- A failure makes a task forget the leader, if one is known. -/
def forgets? (t : Turn) : Option Selector.Operation :=
  if t.selector.leader.isSome then some .clearLeader else none

/-- What the task does to the selector when it handles an input. -/
def operation? (t : Turn) : Input → Option Selector.Operation
  | .event (.registered _ result) =>
    match refusal? result with
    | .ok r => some (.reset r.leader r.members)
    | .error _ => none
  | .event (.keptAlive result) =>
    if t.session.closing || !t.state.isLive then none
    else match result, Outcome.of (result.map (·.toVerdict)) with
      | .ok r, .ok => some (.reset r.leader r.members)
      | _, .unknownSession => none
      | _, _ => t.forgets?
  | .event (.unregistered result) =>
    if t.state.isEnded then none
    else match Outcome.of (result.map (·.toVerdict)) with
      | .failed => t.forgets?
      | _ => none
  | .command _ | .event (.timer _ _) => none

/-- Number of requests so far that are not to register. -/
def renewals (t : Turn) : Nat := t.calls.countP (· ≠ .register)

/-! ## What single steps do to the selector -/

section
variable (t : Turn)

@[simp] theorem cancel_selector (slot : Slot) : (t.cancel slot).selector = t.selector := by
  unfold cancel; split <;> rfl

@[simp] theorem schedule_selector (slot : Slot) (purpose : Purpose) (delay : Duration) :
    (t.schedule slot purpose delay).selector = t.selector := by
  simp [schedule]

@[simp] theorem become_selector (status : SessionStatus) :
    (t.become status).selector = t.selector := rfl

@[simp] theorem forgetLeader_selector : t.forgetLeader.selector = t.selector.clearLeader := rfl

@[simp] theorem completeOpen_selector : t.completeOpen.selector = t.selector := by
  rw [completeOpen_eq]

@[simp] theorem completeClose_selector : t.completeClose.selector = t.selector := by
  rw [completeClose_eq]

@[simp] theorem failOpen_selector (e : SessionError) : (t.failOpen e).selector = t.selector := by
  rw [failOpen_eq]

@[simp] theorem register_selector (attempt : UInt32) :
    (t.register attempt).selector = t.selector := rfl

@[simp] theorem keepAlive_selector : t.keepAlive.selector = t.selector := by
  unfold keepAlive; split <;> rfl

@[simp] theorem unregister_selector : t.unregister.selector = t.selector := by
  unfold unregister; dsimp only; split <;> simp

@[simp] theorem cancelAll_selector : t.cancelAll.selector = t.selector := by simp [cancelAll]

theorem accept_selector (r : RegisterResponse) :
    (t.accept r).selector = t.selector.reset r.leader r.members := by
  obtain ⟨interval, h⟩ := t.accept_eq r
  rw [h]; rfl

/-! ## What inputs do to the selector -/

theorem onOpen_selector (w : Waiter) : (t.onOpen w).selector = t.selector := by
  unfold onOpen
  split
  · rfl
  · rfl
  · rfl
  · rfl
  · split
    · rfl
    · dsimp only
      split <;> rfl

theorem onClose_selector (w : Waiter) : (t.onClose w).selector = t.selector := by
  unfold onClose
  split
  · rfl
  · dsimp only
    split
    · rfl
    · split
      · simp
      · split <;> simp

theorem onTimer_selector (id : Nat) (purpose : Purpose) :
    (t.onTimer id purpose).selector = t.selector := by
  unfold onTimer fired
  cases purpose <;> dsimp only <;> split <;> first | rfl | (split <;> simp) | simp

theorem onRefused_selector (strategy : Strategy) (a : Attempt) :
    (t.onRefused strategy a).selector = t.selector := by
  unfold onRefused
  split
  · simp
  · dsimp only [consult]
    split <;> simp

theorem onAccepted_selector (r : RegisterResponse) :
    (t.onAccepted r).selector = t.selector.reset r.leader r.members := by
  rw [← t.accept_selector r]
  unfold onAccepted
  dsimp only
  split
  · simp
  · simp [scheduleKeepAlive]

theorem onHeartbeatFailed_selector :
    t.onHeartbeatFailed.selector = t.forgets?.elim t.selector t.selector.apply := by
  unfold onHeartbeatFailed forgets?
  split <;> simp [scheduleKeepAlive, Selector.apply]

theorem onUnregisterFailed_selector :
    t.onUnregisterFailed.selector = t.forgets?.elim t.selector t.selector.apply := by
  unfold onUnregisterFailed forgets?
  split <;> simp [Selector.apply]

/-- **What a task does to the selector.** -/
theorem handle_selector (strategy : Strategy) (i : Input) :
    (t.handle strategy i).selector = (t.operation? i).elim t.selector t.selector.apply := by
  rcases i with (w | w) | (⟨id, purpose⟩ | ⟨attempt, result⟩ | result | result)
  · exact t.onOpen_selector w
  · exact t.onClose_selector w
  · exact t.onTimer_selector id purpose
  · show (t.onRegistered strategy attempt result).selector = _
    simp only [onRegistered, operation?]
    cases refusal? result with
    | ok r => exact onAccepted_selector _ _
    | error failure => exact onRefused_selector _ _ _
  · show (t.onKeptAlive result).selector = _
    simp only [onKeptAlive, operation?]
    split
    · rfl
    · cases result with
      | error e => exact t.onHeartbeatFailed_selector
      | ok r =>
        rw [show (Except.ok r).map (·.toVerdict) = .ok r.toVerdict from rfl]
        cases Outcome.of (.ok r.toVerdict) with
        | ok => simp [onRenewed, scheduleKeepAlive, follow, Selector.apply]
        | unknownSession => simp
        | failed => exact t.onHeartbeatFailed_selector
  · show (t.onUnregistered result).selector = _
    simp only [onUnregistered, operation?]
    split
    · rfl
    · cases Outcome.of (result.map (·.toVerdict)) with
      | failed => exact t.onUnregisterFailed_selector
      | _ => simp [finishClose]

/-- **A leader is set only by a member that has registered or renewed the session.** -/
theorem operation?_setsLeader {i : Input} {o : Selector.Operation} (h : t.operation? i = some o)
    (hr : i.call? ≠ some .register) (hb : i.beat? ≠ some .ok) : o.setsLeader = false := by
  have hforgets : ∀ o', t.forgets? = some o' → o'.setsLeader = false := by
    intro o' ho
    unfold forgets? at ho
    split at ho
    · cases ho; rfl
    · cases ho
  rcases i with (w | w) | (⟨id, purpose⟩ | ⟨attempt, result⟩ | result | result)
  · cases h
  · cases h
  · cases h
  · exact absurd rfl hr
  · simp only [operation?] at h
    split at h
    · cases h
    · split at h
      · next hok => exact absurd (congrArg some hok) hb
      · cases h
      · exact hforgets o h
  · simp only [operation?] at h
    split at h
    · cases h
    · split at h
      · exact hforgets o h
      · cases h

/-! ## Failures -/

/-- A task without a session sends no heartbeat. -/
theorem keepAlive_calls_cases : t.keepAlive.calls = t.calls ∨
    t.keepAlive.calls = t.calls ++ [.keepAlive] := by
  cases h : t.state.sessionId with
  | none => left; unfold keepAlive; rw [h]
  | some id => exact .inr (keepAlive_calls (by rw [h]; rfl))

theorem unregister_calls_cases : t.unregister.calls = t.calls ∨
    t.unregister.calls = t.calls ++ [.unregister] := by
  cases h : t.state.sessionId with
  | none => left; unfold unregister; simp [h, calls]
  | some id => exact .inr (unregister_calls (by rw [h]; rfl))

/-- A failed outcome is ignored, or costs nothing, or costs a known leader. -/
def Spends (t t' : Turn) (o : Option Selector.Operation) : Prop :=
  o = none ∧ t'.renewals = t.renewals ∨
    t.selector.leader.isSome = true ∧ o = some .clearLeader ∧ t'.renewals ≤ t.renewals + 1

variable {t} in
theorem Spends.free {t' : Turn} (h : t'.calls = t.calls) : t.Spends t' none :=
  .inl ⟨rfl, by rw [renewals, h, renewals]⟩

variable {t} in
theorem Spends.once {t' : Turn} {m : Method} (hl : t.selector.leader.isSome = true)
    (h : t'.calls = t.calls ∨ t'.calls = t.calls ++ [m]) : t.Spends t' (some .clearLeader) := by
  refine .inr ⟨hl, rfl, ?_⟩
  unfold renewals
  rcases h with h | h
  · rw [h]
    exact Nat.le_succ _
  · rw [h, List.countP_append]
    exact Nat.add_le_add_left List.countP_le_length _

theorem onHeartbeatFailed_spends : t.Spends t.onHeartbeatFailed t.forgets? := by
  unfold onHeartbeatFailed forgets?
  split
  · next hl => exact .once hl t.forgetLeader.keepAlive_calls_cases
  · exact .free (by simp [calls, scheduleKeepAlive])

theorem onUnregisterFailed_spends : t.Spends t.onUnregisterFailed t.forgets? := by
  unfold onUnregisterFailed forgets?
  split
  · next hl => exact .once hl t.forgetLeader.unregister_calls_cases
  · exact .free (by simp [calls])

theorem onRefused_renewals (strategy : Strategy) (a : Attempt) :
    (t.onRefused strategy a).renewals = t.renewals := by
  unfold onRefused
  split
  · simp [renewals, calls]
  · dsimp only [consult]
    split
    · rw [renewals, register_calls]
      simp [renewals, calls, Action.errand?]
    · simp [renewals, calls, Action.errand?]
    · simp [renewals, calls, Action.errand?]

/-- **A request is sent again at once only when a leader was known**, and the task forgets it
    first. -/
theorem handle_of_failed (strategy : Strategy) {i : Input} (h : i.failed = true) :
    t.Spends (t.handle strategy i) (t.operation? i) := by
  rcases i with (w | w) | (⟨id, purpose⟩ | ⟨attempt, result⟩ | result | result)
  · cases h
  · cases h
  · cases h
  · show t.Spends (t.onRegistered strategy attempt result) _
    simp only [onRegistered, operation?]
    simp only [Input.failed] at h
    cases hr : refusal? result with
    | ok r => rw [hr] at h; cases h
    | error failure =>
      refine .inl ⟨rfl, ?_⟩
      exact onRefused_renewals _ _ _
  · show t.Spends (t.onKeptAlive result) _
    simp only [onKeptAlive, operation?]
    simp only [Input.failed, decide_eq_true_iff] at h
    split
    · exact .free rfl
    · cases result with
      | error e => exact t.onHeartbeatFailed_spends
      | ok r =>
        rw [show (Except.ok r).map (·.toVerdict) = .ok r.toVerdict from rfl] at h ⊢
        cases ho : Outcome.of (.ok r.toVerdict) with
        | ok => exact absurd ho h
        | unknownSession => exact .free (by simp [calls])
        | failed => exact t.onHeartbeatFailed_spends
  · show t.Spends (t.onUnregistered result) _
    simp only [onUnregistered, operation?]
    simp only [Input.failed, decide_eq_true_iff] at h
    split
    · exact .free rfl
    · cases ho : Outcome.of (result.map (·.toVerdict)) with
      | ok => exact absurd ho h
      | unknownSession => exact .free (by simp [finishClose, calls])
      | failed => exact t.onUnregisterFailed_spends

/-- **A renewal at once is paid for**, by the leader that was known, or by one that is set. -/
theorem handle_paid (strategy : Strategy) (i : Input) :
    (if i.failed then (t.handle strategy i).renewals else t.renewals) +
        (t.handle strategy i).selector.known ≤
      t.renewals + t.selector.known + ((t.operation? i).any (·.setsLeader)).toNat := by
  rw [t.handle_selector strategy i]
  split
  · next hf =>
    rcases t.handle_of_failed strategy hf with ⟨ho, hr⟩ | ⟨hl, ho, hr⟩
    · rw [ho, hr]
      exact Nat.le_refl _
    · rw [ho, Selector.known, Selector.known, hl]
      exact hr
  · rw [Nat.add_assoc]
    refine Nat.add_le_add_left ?_ _
    cases t.operation? i with
    | none => exact Nat.le_refl _
    | some o => exact t.selector.apply_known_le o

end

end Turn

end ClusterSession
