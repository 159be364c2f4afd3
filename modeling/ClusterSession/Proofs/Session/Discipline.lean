/-
  ClusterSession: a task on any state.

  A task may be spawned on a state that was registered before, and several tasks may share
  one state, so that the status moves without the task.

  * `Turn.Settled`: no attempt to register is on its way or due, and the session has a
    status.  `handle_settled`: it stays so.
  * `Turn.Steady`: at most one attempt to register is on its way, and heartbeats are sent
    only by a task that is settled.  `handle_steady`: whatever the input, this holds.
  * `handle_isEnded`, `handle_closing`: what has ended stays ended, and the end that has been
    asked for stays asked for.
-/
import ClusterSession.Proofs.Session.Reports

namespace ClusterSession

namespace SessionState

variable {s : SessionState}

theorem moveTo_status_ne_none (h : s.status ≠ none) (next : SessionStatus) :
    (s.moveTo next).2.status ≠ none := by
  unfold moveTo
  split
  · exact Option.some_ne_none _
  · exact h

/-- Nothing keeps a session without a status from being opened. -/
theorem moveTo_opened_status (s : SessionState) : (s.moveTo .opened).2.status ≠ none := by
  cases h : s.status with
  | none => simp [moveTo, h, SessionStatus.mayFollow]
  | some status => exact moveTo_status_ne_none (by rw [h]; exact Option.some_ne_none _) _

/-- No step leads away from the end. -/
theorem moveTo_isEnded (h : s.isEnded = true) (next : SessionStatus) :
    (s.moveTo next).2 = s := by
  unfold isEnded at h
  unfold moveTo
  rw [if_neg]
  rcases hs : s.status with _ | (_ | _ | _ | _) <;> rw [hs] at h <;>
    first | cases h; done | simp [SessionStatus.mayFollow, SessionStatus.canBecome]

end SessionState

namespace Turn

/-- No attempt to register is on its way or due, and the session has a status. -/
structure Settled (t : Turn) : Prop where
  registering : t.session.registering = false
  registerTimer : t.session.registerTimer = none
  status : t.state.status ≠ none

/-- With the calls `pending` besides those of the turn: at most one attempt to register is on its
    way, none is due meanwhile, and heartbeats are a matter of settled tasks. -/
structure Steady (pending : List Method) (t : Turn) : Prop where
  registers : (pending ++ t.calls).count .register = t.session.registering.toNat
  timer : t.session.registering = true → t.session.registerTimer = none
  beats : .keepAlive ∈ pending ++ t.calls ∨ t.session.keepAliveTimer.isSome = true → t.Settled

section
variable {t t' : Turn} {pending : List Method}

/-- Nothing begins: no attempt to register, and no heartbeat. -/
structure Quiet (t t' : Turn) : Prop where
  registering : t'.session.registering = t.session.registering
  registerTimer : t'.session.registerTimer = t.session.registerTimer ∨
    t'.session.registerTimer = none
  keepAliveTimer : t'.session.keepAliveTimer = t.session.keepAliveTimer ∨
    t'.session.keepAliveTimer = none
  status : t.state.status ≠ none → t'.state.status ≠ none
  calls : t'.calls = t.calls ∨ t'.calls = t.calls ++ [.unregister]

theorem Quiet.settled (h : t.Quiet t') (hs : t.Settled) : t'.Settled where
  registering := h.registering.trans hs.registering
  registerTimer := h.registerTimer.elim (·.trans hs.registerTimer) id
  status := h.status hs.status

theorem Quiet.steady (h : t.Quiet t') (hs : t.Steady pending) : t'.Steady pending where
  registers := by
    rw [h.registering, ← hs.registers]
    rcases h.calls with hc | hc <;> simp [hc]
  timer hr := h.registerTimer.elim (·.trans (hs.timer (h.registering ▸ hr))) id
  beats hb := by
    refine h.settled (hs.beats (hb.imp (fun hm => ?_) fun hk => ?_))
    · rcases h.calls with hc | hc <;> simpa [hc] using hm
    · rcases h.keepAliveTimer with he | he
      · exact he ▸ hk
      · rw [he] at hk; cases hk

theorem Steady.perm {pending' : List Method} (h : t.Steady pending) (hp : pending.Perm pending') :
    t.Steady pending' :=
  ⟨((hp.append_right t.calls).count_eq _).symm.trans h.registers, h.timer,
    fun hb => h.beats (hb.imp (hp.append_right t.calls).mem_iff.2 id)⟩

/-- A turn that goes on from where another has ended. -/
theorem Steady.next (h : t.Steady pending) (hs : t'.session = t.session)
    (hstate : t'.state = t.state) (hc : t'.calls = []) : t'.Steady (pending ++ t.calls) where
  registers := by rw [hc, List.append_nil, hs]; exact h.registers
  timer hr := by rw [hs] at hr ⊢; exact h.timer hr
  beats hb := by
    rw [hc, List.append_nil, hs] at hb
    have hset := h.beats hb
    exact ⟨hs ▸ hset.registering, hs ▸ hset.registerTimer, hstate ▸ hset.status⟩

theorem Quiet.refl (t : Turn) : t.Quiet t := ⟨rfl, .inl rfl, .inl rfl, id, .inl rfl⟩

theorem Settled.steady (h : t.Settled) (hc : (pending ++ t.calls).count .register = 0) :
    t.Steady pending where
  registers := by rw [hc, h.registering]; rfl
  timer hr := absurd (h.registering.symm.trans hr) nofun
  beats _ := h

end

/-! ## Inputs with which nothing begins -/

section
variable (t : Turn)

theorem resolve_quiet (w : Waiter) (result : Except SessionError Unit) :
    t.Quiet (t.resolve w result) :=
  ⟨rfl, .inl rfl, .inl rfl, id, .inl (by simp [resolve, calls, Action.errand?])⟩

theorem unregister_quiet : t.Quiet t.unregister where
  registering := by simp [Session.setTimer]
  registerTimer := by simp [Session.setTimer]
  keepAliveTimer := by simp [Session.setTimer]
  status := by simp
  calls := t.unregister_calls_cases

theorem onClose_quiet (w : Waiter) : t.Quiet (t.onClose w) := by
  unfold onClose
  split
  · exact t.resolve_quiet _ _
  · dsimp only
    split
    · exact ⟨rfl, .inl rfl, .inl rfl, id, .inl rfl⟩
    · split
      · refine ⟨by simp [Session.setTimer], by simp [Session.setTimer], by simp [Session.setTimer],
          by simp, ?_⟩
        have hc := unregister_calls_cases (((t.update fun s =>
          { s with closeWaiters := s.closeWaiters ++ [w] }).update fun s =>
            { s with closing := true }).cancel .keepAlive)
        simpa [calls] using hc
      · split
        · exact ⟨by simp [Session.setTimer], by simp [Session.setTimer], by simp [Session.setTimer],
            by simp, by simp [calls]⟩
        · refine ⟨by simp [Session.setTimer], by simp [Session.setTimer],
            by simp [Session.setTimer], fun hs => ?_, by simp [calls]⟩
          simp only [completeClose_state, become_state, cancel_state, failOpen_state, update_state]
          exact SessionState.moveTo_status_ne_none hs _

theorem finishClose_quiet (status : SessionStatus) : t.Quiet (t.finishClose status) where
  registering := by simp [finishClose]
  registerTimer := by simp [finishClose]
  keepAliveTimer := by simp [finishClose]
  status hs := by
    simp only [finishClose, completeClose_state, cancelAll_state, become_state]
    exact SessionState.moveTo_status_ne_none hs _
  calls := by simp [finishClose, calls]

theorem onUnregistered_quiet (result : Except ConnectionError UnregisterResponse) :
    t.Quiet (t.onUnregistered result) := by
  unfold onUnregistered
  split
  · exact .refl t
  · split
    · exact t.finishClose_quiet _
    · exact t.finishClose_quiet _
    · unfold onUnregisterFailed
      split
      · have h := t.forgetLeader.unregister_quiet
        exact ⟨h.registering, h.registerTimer, h.keepAliveTimer, h.status, h.calls⟩
      · refine ⟨by simp [Session.setTimer], by simp [Session.setTimer], by simp [Session.setTimer],
          fun hs => ?_, by simp [calls]⟩
        rw [schedule_state]
        exact SessionState.moveTo_status_ne_none hs _

/-- A timer to end the session goes off. -/
theorem onTimer_unregister_quiet (id : Nat) : t.Quiet (t.onTimer id .unregister) := by
  unfold onTimer fired
  dsimp only
  split
  · have h := (t.update (·.setTimer .unregister none)).unregister_quiet
    exact ⟨h.registering, h.registerTimer, h.keepAliveTimer, h.status, h.calls⟩
  · exact .refl t

end

/-! ## Settled tasks -/

section
variable {t : Turn} (h : t.Settled)
include h

theorem onOpen_quiet (w : Waiter) : t.Quiet (t.onOpen w) := by
  unfold onOpen
  split
  · exact t.resolve_quiet _ _
  · exact t.resolve_quiet _ _
  · exact t.resolve_quiet _ _
  · exact t.resolve_quiet _ _
  · next hs => exact absurd hs h.status

/-- What shows that a task is still settled. -/
theorem Settled.of_eq {t' : Turn} (hr : t'.session.registering = t.session.registering)
    (ht : t'.session.registerTimer = t.session.registerTimer ∨ t'.session.registerTimer = none)
    (hs : t'.state.status ≠ none) : t'.Settled :=
  ⟨hr.trans h.registering, ht.elim (·.trans h.registerTimer) id, hs⟩

theorem onKeptAlive_settled (result : Except ConnectionError KeepAliveResponse) :
    (t.onKeptAlive result).Settled ∧
      (t.onKeptAlive result).calls.count .register = t.calls.count .register := by
  unfold onKeptAlive
  split
  · exact ⟨h, rfl⟩
  · split
    · refine ⟨h.of_eq ?_ ?_ ?_, ?_⟩
      · simp [onRenewed, scheduleKeepAlive, Session.setTimer]
      · simp [onRenewed, scheduleKeepAlive, Session.setTimer]
      · simp only [onRenewed, scheduleKeepAlive, schedule_state, become_state, follow_state]
        exact SessionState.moveTo_status_ne_none h.status _
      · simp [onRenewed, scheduleKeepAlive, calls]
    · refine ⟨h.of_eq (by simp) (by simp) ?_, by simp [calls]⟩
      rw [cancelAll_state]
      exact SessionState.moveTo_status_ne_none h.status _
    · unfold onHeartbeatFailed
      split
      · refine ⟨h.of_eq (by simp) (by simp) (by simpa using h.status), ?_⟩
        rcases t.forgetLeader.keepAlive_calls_cases with he | he <;> rw [he] <;> simp [calls]
      · refine ⟨h.of_eq ?_ ?_ ?_, by simp [scheduleKeepAlive, calls]⟩
        · simp [scheduleKeepAlive, Session.setTimer]
        · simp [scheduleKeepAlive, Session.setTimer]
        · rw [scheduleKeepAlive, schedule_state]
          exact SessionState.moveTo_status_ne_none h.status _

theorem onTimer_settled (id : Nat) (purpose : Purpose) :
    (t.onTimer id purpose).Settled ∧
      (t.onTimer id purpose).calls.count .register = t.calls.count .register := by
  cases purpose with
  | unregister =>
    have hq := t.onTimer_unregister_quiet id
    refine ⟨hq.settled h, ?_⟩
    rcases hq.calls with hc | hc <;> simp [hc]
  | keepAlive =>
    unfold onTimer fired
    dsimp only
    split
    · split
      · exact ⟨⟨h.registering, h.registerTimer, h.status⟩, rfl⟩
      · refine ⟨h.of_eq (by simp [Session.setTimer]) (by simp [Session.setTimer])
          (by simpa using h.status), ?_⟩
        rcases (t.update (·.setTimer .keepAlive none)).keepAlive_calls_cases with he | he <;>
          rw [he] <;> simp [calls]
    · exact ⟨h, rfl⟩
  | register attempt =>
    unfold onTimer fired
    dsimp only
    rw [if_neg (by simp [Session.timer, h.registerTimer])]
    exact ⟨h, rfl⟩

/-- **A settled task stays settled**, as long as it owes no request to register. -/
theorem handle_settled (strategy : Strategy) {i : Input} (hi : i.call? ≠ some .register) :
    (t.handle strategy i).Settled ∧
      (t.handle strategy i).calls.count .register = t.calls.count .register := by
  have hquiet : ∀ t', t.Quiet t' →
      t'.Settled ∧ t'.calls.count .register = t.calls.count .register := by
    intro t' hq
    refine ⟨hq.settled h, ?_⟩
    rcases hq.calls with hc | hc <;> simp [hc]
  rcases i with (w | w) | (⟨id, purpose⟩ | ⟨attempt, result⟩ | result | result)
  · exact hquiet _ (onOpen_quiet h w)
  · exact hquiet _ (t.onClose_quiet w)
  · exact onTimer_settled h id purpose
  · exact absurd rfl hi
  · exact onKeptAlive_settled h result
  · exact hquiet _ (t.onUnregistered_quiet result)

end

/-! ## Tasks that are not settled -/

section
variable {t : Turn} {pending : List Method}

/-- No heartbeat is a matter of a task that is not settled. -/
theorem Steady.unbeaten (h : t.Steady pending) (hn : ¬t.Settled) :
    .keepAlive ∉ pending ++ t.calls ∧ t.session.keepAliveTimer = none :=
  ⟨fun hm => hn (h.beats (.inl hm)),
    Option.not_isSome_iff_eq_none.1 fun hk => hn (h.beats (.inr hk))⟩

/-- A task that sends no heartbeat and sets no timer for one. -/
theorem Steady.of_unbeaten {t' : Turn}
    (hr : (pending ++ t'.calls).count .register = t'.session.registering.toNat)
    (ht : t'.session.registering = true → t'.session.registerTimer = none)
    (hm : .keepAlive ∉ pending ++ t'.calls) (hk : t'.session.keepAliveTimer = none) :
    t'.Steady pending :=
  ⟨hr, ht, fun hb => hb.elim (fun h => absurd h hm) fun h => by rw [hk] at h; cases h⟩

theorem onOpen_steady (h : t.Steady pending) (w : Waiter) : (t.onOpen w).Steady pending := by
  unfold onOpen
  split
  · exact (t.resolve_quiet _ _).steady h
  · exact (t.resolve_quiet _ _).steady h
  · exact (t.resolve_quiet _ _).steady h
  · exact (t.resolve_quiet _ _).steady h
  · next hs =>
    obtain ⟨hm, hk⟩ := h.unbeaten fun hset => hset.status hs
    split
    · exact (t.resolve_quiet _ _).steady h
    · dsimp only
      split
      · next hready =>
        simp only [update_session, Bool.and_eq_true, Bool.not_eq_true'] at hready
        have hcount := h.registers
        rw [hready.1] at hcount
        refine .of_unbeaten ?_ (fun _ => of_decide_eq_true hready.2) ?_ hk
        · rw [register_calls, ← List.append_assoc, List.count_append]
          exact congrArg (· + 1) hcount
        · rw [register_calls, ← List.append_assoc]
          simpa [calls] using hm
      · exact ⟨h.registers, h.timer, fun hb => absurd (h.beats hb).status (by simp [hs])⟩

theorem onTimer_steady (h : t.Steady pending) (hn : ¬t.Settled) (id : Nat) (purpose : Purpose) :
    (t.onTimer id purpose).Steady pending := by
  obtain ⟨hm, hk⟩ := h.unbeaten hn
  cases purpose with
  | unregister => exact (t.onTimer_unregister_quiet id).steady h
  | keepAlive =>
    unfold onTimer fired
    dsimp only
    rw [if_neg (by simp [Session.timer, hk])]
    exact h
  | register attempt =>
    unfold onTimer fired
    dsimp only
    split
    · next hid =>
      have hr : t.session.registering = false := by
        rw [← Bool.not_eq_true]
        intro hr
        exact Option.some_ne_none _ (hid.symm.trans (h.timer hr))
      have hcount := h.registers
      rw [hr] at hcount
      split
      · exact .of_unbeaten (hcount.trans (congrArg Bool.toNat hr.symm)) (fun _ => rfl) hm hk
      · refine .of_unbeaten ?_ (fun _ => rfl) ?_ hk
        · rw [register_calls, ← List.append_assoc, List.count_append]
          exact congrArg (· + 1) hcount
        · rw [register_calls, ← List.append_assoc]
          simpa [calls] using hm
    · exact h

/-- No attempt to register is on its way or due, and no heartbeat. -/
structure Blank (pending : List Method) (t : Turn) : Prop where
  registering : t.session.registering = false
  registerTimer : t.session.registerTimer = none
  keepAliveTimer : t.session.keepAliveTimer = none
  registers : (pending ++ t.calls).count .register = 0
  beats : .keepAlive ∉ pending ++ t.calls

theorem Blank.steady (h : t.Blank pending) : t.Steady pending :=
  .of_unbeaten (by rw [h.registers, h.registering]; rfl)
    (fun hr => absurd (h.registering.symm.trans hr) nofun) h.beats h.keepAliveTimer

theorem Blank.of_eq {u : Turn} (h : t.Blank pending)
    (hr : u.session.registering = t.session.registering)
    (ht : u.session.registerTimer = t.session.registerTimer)
    (hk : u.session.keepAliveTimer = t.session.keepAliveTimer) (hc : u.calls = t.calls) :
    u.Blank pending :=
  ⟨hr.trans h.registering, ht.trans h.registerTimer, hk.trans h.keepAliveTimer,
    hc ▸ h.registers, hc ▸ h.beats⟩

theorem Blank.register (h : t.Blank pending) (attempt : UInt32) :
    (t.register attempt).Steady pending := by
  refine .of_unbeaten ?_ (fun _ => h.registerTimer) ?_ h.keepAliveTimer
  · rw [register_calls, ← List.append_assoc, List.count_append, h.registers]
    rfl
  · rw [register_calls, ← List.append_assoc]
    simpa using h.beats

theorem Blank.onAccepted (h : t.Blank pending) (r : RegisterResponse) :
    (t.onAccepted r).Steady pending := by
  obtain ⟨interval, hi⟩ := t.accept_session r
  have hc : (t.accept r).calls = t.calls := by simp [calls]
  have hb : (t.accept r).Blank pending := h.of_eq (by rw [hi]) (by rw [hi]) (by rw [hi]) hc
  unfold Turn.onAccepted
  dsimp only
  split
  · exact (t.accept r).unregister_quiet.steady hb.steady
  · refine Settled.steady ⟨?_, ?_, ?_⟩ ?_
    · simp [scheduleKeepAlive, Session.setTimer, hb.registering]
    · simp [scheduleKeepAlive, Session.setTimer, hb.registerTimer]
    · simp only [scheduleKeepAlive, schedule_state, completeOpen_state, accept_state]
      exact SessionState.moveTo_opened_status _
    · rw [show (t.accept r).completeOpen.scheduleKeepAlive.calls = t.calls by
        simp [scheduleKeepAlive, calls]]
      exact h.registers

theorem Blank.onRefused (h : t.Blank pending) (strategy : Strategy) (a : Attempt) :
    (t.onRefused strategy a).Steady pending := by
  unfold Turn.onRefused
  split
  · exact (h.of_eq (u := (t.become .closed).completeClose) (by simp) (by simp) (by simp)
      (by simp [calls])).steady
  · dsimp only
    have hc : (t.consult strategy a).2.Blank pending :=
      h.of_eq rfl rfl rfl (by simp [consult, calls, Action.errand?])
    generalize (t.consult strategy a).2 = t₁ at hc
    split
    · exact hc.register _
    · refine .of_unbeaten ?_ (fun hr => ?_) ?_ ?_
      · rw [show (t₁.schedule .register _ _).calls = t₁.calls by simp [calls], hc.registers]
        simp [Session.setTimer, hc.registering]
      · simp [Session.setTimer, hc.registering] at hr
      · rw [show (t₁.schedule .register _ _).calls = t₁.calls by simp [calls]]
        exact hc.beats
      · simp [Session.setTimer, hc.keepAliveTimer]
    · exact (hc.of_eq (u := t₁.failOpen _) (by simp) (by simp) (by simp) (by simp [calls])).steady

theorem onRegistered_steady (h : t.Steady (.register :: pending)) (strategy : Strategy)
    (attempt : UInt32) (result : Except ConnectionError RegisterResponse) :
    (t.onRegistered strategy attempt result).Steady pending := by
  have hcount := h.registers
  have hr : t.session.registering = true := by
    rw [← Bool.not_eq_false]
    intro hr
    rw [hr] at hcount
    simp at hcount
  obtain ⟨hm, hk⟩ := h.unbeaten fun hset => absurd (hset.registering.symm.trans hr) nofun
  have hb : (t.update fun s => { s with registering := false }).Blank pending :=
    { registering := rfl
      registerTimer := h.timer hr
      keepAliveTimer := hk
      registers := by
        rw [hr] at hcount
        simpa [calls] using hcount
      beats := fun hm' => hm (List.mem_cons_of_mem _ hm') }
  simp only [onRegistered]
  cases refusal? result with
  | ok r => exact hb.onAccepted r
  | error failure => exact hb.onRefused strategy _

/-- **Whatever the input, a task is steady**, if an outcome is that of a call that it owes. -/
theorem handle_steady (strategy : Strategy) {i : Input} (h : t.Steady (i.call?.toList ++ pending)) :
    (t.handle strategy i).Steady pending := by
  by_cases hset : t.Settled
  · have hcount : (i.call?.toList ++ pending ++ t.calls).count .register = 0 := by
      rw [h.registers, hset.registering]
      rfl
    have hi : i.call? ≠ some .register := by
      intro hi
      rw [hi] at hcount
      simp at hcount
    obtain ⟨hset', hc⟩ := handle_settled hset strategy hi
    refine hset'.steady ?_
    rw [List.append_assoc, List.count_append] at hcount
    rw [List.count_append, hc, ← List.count_append]
    exact Nat.eq_zero_of_add_eq_zero_left hcount
  · rcases i with (w | w) | (⟨id, purpose⟩ | ⟨attempt, result⟩ | result | result)
    · exact onOpen_steady h w
    · exact (t.onClose_quiet w).steady h
    · exact onTimer_steady h hset id purpose
    · exact onRegistered_steady h strategy attempt result
    · exact absurd (h.beats (.inl List.mem_cons_self)) hset
    · refine (t.onUnregistered_quiet result).steady ?_
      exact ⟨by simpa [Input.call?] using h.registers, h.timer,
        fun hb => h.beats (hb.imp (List.mem_cons_of_mem _) id)⟩

end

/-! ## What stays -/

section
variable {t : Turn} {i : Input}

theorem Move.isEnded {t' : Turn} (h : Move t t') (ht : t.state.isEnded = true) :
    t'.state.isEnded = true := by
  cases h with
  | schedule => rw [schedule_state]; exact ht
  | become status => rw [become_state, SessionState.moveTo_isEnded ht]; exact ht
  | number id => unfold Turn.number SessionState.assign; split <;> exact ht
  | _ => exact ht

/-- **What has ended stays ended.** -/
theorem handle_isEnded (strategy : Strategy) (h : t.state.isEnded = true) :
    (t.handle strategy i).state.isEnded = true :=
  (t.handle_moves strategy i).keeps (P := fun t => t.state.isEnded = true)
    (fun _ _ hm => hm.isEnded) h

theorem Move.status_ne_none {t' : Turn} (h : Move t t') (ht : t.state.status ≠ none) :
    t'.state.status ≠ none := by
  cases h with
  | schedule => rw [schedule_state]; exact ht
  | become status => exact SessionState.moveTo_status_ne_none ht _
  | number id => unfold Turn.number SessionState.assign; split <;> exact ht
  | _ => exact ht

/-- A session that has a status goes on to have one. -/
theorem handle_status_ne_none (strategy : Strategy) (h : t.state.status ≠ none) :
    (t.handle strategy i).state.status ≠ none :=
  (t.handle_moves strategy i).keeps (P := fun t => t.state.status ≠ none)
    (fun _ _ hm => hm.status_ne_none) h

/-- Only a caller asks for the end. -/
theorem handle_closing_of_ne (strategy : Strategy) (hi : ∀ w, i ≠ .command (.closing w)) :
    (t.handle strategy i).session.closing = t.session.closing := by
  rcases i with (w | w) | (⟨id, purpose⟩ | ⟨attempt, result⟩ | result | result)
  · show (t.onOpen w).session.closing = _
    unfold onOpen
    split
    · rfl
    · rfl
    · rfl
    · rfl
    · split
      · rfl
      · dsimp only
        split <;> rfl
  · exact absurd rfl (hi w)
  · show (t.onTimer id purpose).session.closing = _
    unfold onTimer fired
    cases purpose <;> dsimp only <;> split <;>
      first | rfl | (split <;> simp [Session.setTimer]) | simp [Session.setTimer]
  · show (t.onRegistered strategy attempt result).session.closing = _
    simp only [onRegistered]
    cases refusal? result with
    | ok r =>
      obtain ⟨interval, hr⟩ := (t.update fun s => { s with registering := false }).accept_session r
      unfold onAccepted
      dsimp only
      split <;> simp [hr, scheduleKeepAlive, Session.setTimer]
    | error failure =>
      show (onRefused _ _ _).session.closing = _
      unfold onRefused
      split
      · simp
      · dsimp only [consult]
        split <;> simp [Session.setTimer]
  · show (t.onKeptAlive result).session.closing = _
    unfold onKeptAlive onHeartbeatFailed
    split
    · rfl
    · split
      · simp [onRenewed, scheduleKeepAlive, Session.setTimer]
      · simp
      · split <;> simp [scheduleKeepAlive, Session.setTimer]
  · show (t.onUnregistered result).session.closing = _
    unfold onUnregistered onUnregisterFailed
    split
    · rfl
    · split
      · simp [finishClose]
      · simp [finishClose]
      · split <;> simp [Session.setTimer]

/-- **The end that has been asked for stays asked for.** -/
theorem handle_closing (strategy : Strategy) (h : t.session.closing = true) :
    (t.handle strategy i).session.closing = true := by
  by_cases hi : ∃ w, i = .command (.closing w)
  · obtain ⟨w, rfl⟩ := hi
    show (t.onClose w).session.closing = true
    unfold onClose
    split
    · exact h
    · dsimp only
      rw [if_pos (by exact h)]
      exact h
  · rw [handle_closing_of_ne strategy fun w he => hi ⟨w, he⟩, h]

end

/-! ## Failed heartbeats -/

/-- A failed heartbeat is not followed by another one at once: no leader is known, or the end has
    been asked for, or has come. -/
def Spent (t : Turn) : Prop :=
  t.selector.leader = none ∨ t.session.closing = true ∨ t.state.isEnded = true

section
variable {t : Turn}

/-- After a failed heartbeat, the next one is not followed by another at once. -/
theorem spent_of_failed (hs : t.state.status ≠ none)
    {result : Except ConnectionError KeepAliveResponse}
    (hf : Outcome.of (result.map (·.toVerdict)) ≠ .ok) : (t.onKeptAlive result).Spent := by
  have hended : t.state.isLive = false → t.state.isEnded = true := by
    unfold SessionState.isLive SessionState.isEnded
    rcases h : t.state.status with _ | (_ | _ | _ | _) <;> simp [SessionStatus.isTerminal]
    exact hs h
  unfold onKeptAlive
  split
  · next hout =>
    rcases Bool.or_eq_true_iff.1 hout with hc | hl
    · exact .inr (.inl hc)
    · exact .inr (.inr (hended (by simpa using hl)))
  · next hin =>
    have hstanding : t.state.standing = some false := SessionState.isLive_iff.1 <| by
      rw [Bool.not_eq_true, Bool.or_eq_false_iff] at hin
      simpa using hin.2
    split
    · next hok => exact absurd hok hf
    · refine .inr (.inr (SessionState.isEnded_iff.2 ?_))
      rw [cancelAll_state]
      exact SessionState.moveTo_standing_of_live hstanding _
    · unfold onHeartbeatFailed
      split
      · exact .inl (by simp [Selector.clearLeader, Selector.reselect])
      · next hl =>
        refine .inl ?_
        rw [scheduleKeepAlive, schedule_selector, become_selector]
        exact Option.not_isSome_iff_eq_none.1 hl

/-- Nothing changes that, but a member that has registered or renewed the session. -/
theorem Spent.handle (h : t.Spent) (strategy : Strategy) {i : Input}
    (hr : i.call? ≠ some .register) (hb : i.beat? ≠ some .ok) : (t.handle strategy i).Spent := by
  rcases h with hl | hc | he
  · refine .inl ?_
    rw [t.handle_selector strategy i]
    cases ho : t.operation? i with
    | none => exact hl
    | some o => exact Selector.apply_leader_of_none hl (t.operation?_setsLeader ho hr hb)
  · exact .inr (.inl (handle_closing strategy hc))
  · exact .inr (.inr (handle_isEnded strategy he))

/-- Then a failed heartbeat is not followed by another one at once. -/
theorem Spent.errands (h : t.Spent) {result : Except ConnectionError KeepAliveResponse}
    (hf : Outcome.of (result.map (·.toVerdict)) ≠ .ok) :
    (t.onKeptAlive result).errands = t.errands := by
  unfold onKeptAlive
  split
  · rfl
  · next hin =>
    rw [Bool.not_eq_true, Bool.or_eq_false_iff] at hin
    split
    · next hok => exact absurd hok hf
    · simp
    · unfold onHeartbeatFailed
      rcases h with hl | hc | he
      · rw [if_neg (by simp [hl])]
        simp [scheduleKeepAlive]
      · rw [hin.1] at hc
        cases hc
      · have hlive : t.state.isLive = true := by simpa using hin.2
        rw [SessionState.isLive_iff] at hlive
        rw [SessionState.isEnded_iff] at he
        rw [hlive] at he
        cases he

end

end Turn

end ClusterSession
