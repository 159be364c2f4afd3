/-
  ClusterSession: what a session task tells its callers.

  * `Turn.said`: the answers of a turn, and the questions to the strategy.
  * `Turn.Serves`: the ways in which a task answers those who ask and those who wait, and
    who waits afterwards.
  * `handle_served`: whatever the input, the task answers in one of these ways.
  * `Serves.perm`: who has been answered, and who still waits, are those who have waited
    and who asks.
  * `Serves.reason`: every answer has one of eight reasons.
-/
import ClusterSession.Proofs.Session.Changes
import ClusterSession.Proofs.Session.Chronicles

namespace ClusterSession

/-- The caller of a command. -/
def Command.waiter : Command → Waiter
  | opening w | closing w => w

/-- The command that an input is. -/
def Input.command? : Input → Option Command
  | command c => some c
  | event _ => none

theorem Input.eq_of_command? {i : Input} {c : Command} (h : i.command? = some c) :
    i = .command c := by
  cases i with
  | command => exact congrArg Input.command (Option.some.inj h)
  | event => cases h

/-- The caller whom an action answers. -/
def Action.answered? : Action → Option Waiter
  | resolve w _ => some w
  | _ => none

/-- An answer to a caller, or a question to the strategy. -/
def Action.isSaid : Action → Bool
  | resolve _ _ | consult _ _ => true
  | request _ | arm _ _ _ | disarm _ => false

namespace Turn

/-- The answers of the turn so far, and the questions to the strategy. -/
def said (t : Turn) : List Action := t.actions.filter Action.isSaid

/-! ## What single steps say -/

@[simp] theorem answers_said (waiters : List Waiter) (result : Except SessionError Unit) :
    (answers waiters result).filter Action.isSaid = answers waiters result := by
  simp [answers, List.filter_eq_self, Action.isSaid]

@[simp] theorem failures_said (e : SessionError) (waiters : List Waiter) :
    (failures e waiters).filter Action.isSaid = failures e waiters := by
  cases waiters <;> simp [failures, List.filter_cons, Action.isSaid]

section
variable (t : Turn)

@[simp] theorem act_said (a : Action) :
    (t.act a).said = t.said ++ if a.isSaid then [a] else [] := by
  simp [act, said, List.filter_cons]

@[simp] theorem update_said (f : Session → Session) : (t.update f).said = t.said := rfl

@[simp] theorem cancel_said (slot : Slot) : (t.cancel slot).said = t.said := by
  unfold cancel; split <;> simp [Action.isSaid]

@[simp] theorem schedule_said (slot : Slot) (purpose : Purpose) (delay : Duration) :
    (t.schedule slot purpose delay).said = t.said := by
  simp [schedule, Action.isSaid]

@[simp] theorem become_said (status : SessionStatus) : (t.become status).said = t.said := rfl

@[simp] theorem follow_said (leader : Option Address) (members : List Address) :
    (t.follow leader members).said = t.said := rfl

@[simp] theorem forgetLeader_said : t.forgetLeader.said = t.said := rfl

@[simp] theorem accept_said (r : RegisterResponse) : (t.accept r).said = t.said := by
  obtain ⟨interval, h⟩ := t.accept_eq r
  rw [h]; rfl

@[simp] theorem beginEnd_said (w : Waiter) : (t.beginEnd w).said = t.said := by
  simp [beginEnd, awaitEnd]

@[simp] theorem resolve_said (w : Waiter) (result : Except SessionError Unit) :
    (t.resolve w result).said = t.said ++ [.resolve w result] := by
  simp [resolve, Action.isSaid]

@[simp] theorem completeOpen_said :
    t.completeOpen.said = t.said ++ answers t.session.openWaiters (.ok ()) := by
  simp [completeOpen_eq, said]

@[simp] theorem completeClose_said :
    t.completeClose.said = t.said ++ answers t.session.closeWaiters (.ok ()) := by
  simp [completeClose_eq, said]

@[simp] theorem failOpen_said (e : SessionError) :
    (t.failOpen e).said = t.said ++ failures e t.session.openWaiters := by
  simp [failOpen_eq, said]

@[simp] theorem register_said (attempt : UInt32) : (t.register attempt).said = t.said := by
  simp [register, Action.isSaid]

@[simp] theorem keepAlive_said : t.keepAlive.said = t.said := by
  unfold keepAlive; split <;> simp [Action.isSaid]

@[simp] theorem unregister_said : t.unregister.said = t.said := by
  unfold unregister; dsimp only; split <;> simp [Action.isSaid]

@[simp] theorem cancelAll_said : t.cancelAll.said = t.said := by simp [cancelAll]

end

/-! ## Ways to answer -/

/-- The ways in which a task answers when it handles an input: what it says, and who waits for the
    session to open and to close afterwards. -/
inductive Serves (strategy : Strategy) (t : Turn) :
    Input → List Action → List Waiter → List Waiter → Prop
  /-- Nobody has asked for anything, and nobody is told anything. -/
  | silent {e} : ((Input.event e).call? = some .register → t.session.closing = true) →
      Serves strategy t (.event e) [] t.session.openWaiters t.session.closeWaiters
  /-- The strategy goes on trying. -/
  | retry {attempt result failure d} : refusal? result = .error failure →
      t.session.closing = false →
      strategy.decide t.session.consultations { number := attempt, failure } = d →
      (∀ error, d ≠ .fail error) →
      Serves strategy t (.event (.registered attempt result))
        [.consult { number := attempt, failure } d] t.session.openWaiters t.session.closeWaiters
  -- a caller wants the session open
  /-- The session has expired. -/
  | expired {w} : t.state.status = some .expired →
      Serves strategy t (.command (.opening w)) [.resolve w (.error .sessionExpired)]
        t.session.openWaiters t.session.closeWaiters
  /-- The session is closed, or is to be closed. -/
  | closed {w} : t.state.status = some .closed ∨
        t.state.status ≠ some .expired ∧ t.session.closing = true →
      Serves strategy t (.command (.opening w)) [.resolve w (.error .sessionClosed)]
        t.session.openWaiters t.session.closeWaiters
  /-- The session is open. -/
  | welcome {w} : t.state.isLive = true → t.session.closing = false →
      Serves strategy t (.command (.opening w)) [.resolve w (.ok ())]
        t.session.openWaiters t.session.closeWaiters
  /-- The session is not there yet. -/
  | join {w} : t.state.status = none → t.session.closing = false →
      Serves strategy t (.command (.opening w)) []
        (t.session.openWaiters ++ [w]) t.session.closeWaiters
  -- a caller wants the session closed
  /-- The session has ended. -/
  | already {w} : t.state.isEnded = true →
      Serves strategy t (.command (.closing w)) [.resolve w (.ok ())]
        t.session.openWaiters t.session.closeWaiters
  /-- The session is to be closed, or is there to be closed. -/
  | await {w} : t.state.isEnded = false →
      t.session.closing = true ∨ t.state.sessionId.isSome = true →
      Serves strategy t (.command (.closing w)) []
        t.session.openWaiters (t.session.closeWaiters ++ [w])
  /-- The session is being registered. -/
  | leave {w} : t.state.isEnded = false → t.session.closing = false →
      t.state.sessionId = none →
      Serves strategy t (.command (.closing w)) (failures .sessionClosed t.session.openWaiters)
        [] (t.session.closeWaiters ++ [w])
  /-- The session is not there. -/
  | quit {w} : t.state.isEnded = false → t.session.closing = false → t.state.sessionId = none →
      Serves strategy t (.command (.closing w))
        (failures .sessionClosed t.session.openWaiters ++
          answers (t.session.closeWaiters ++ [w]) (.ok ())) [] []
  -- outcomes
  /-- The session has been registered. -/
  | opened {e r} : (Input.event e).accepted? = some r → t.session.closing = false →
      Serves strategy t (.event e) (answers t.session.openWaiters (.ok ()))
        [] t.session.closeWaiters
  /-- The strategy gives up. -/
  | gaveUp {attempt result failure error} : refusal? result = .error failure →
      t.session.closing = false →
      strategy.decide t.session.consultations { number := attempt, failure } = .fail error →
      Serves strategy t (.event (.registered attempt result))
        (.consult { number := attempt, failure } (.fail error) ::
          failures (error.getD .gaveUp) t.session.openWaiters) [] t.session.closeWaiters
  /-- The end has come. -/
  | ended {e} : (Input.event e).accepted? = none →
      ((Input.event e).call? = some .register → t.session.closing = true) →
      Serves strategy t (.event e) (answers t.session.closeWaiters (.ok ()))
        t.session.openWaiters []

/-- What a turn without actions becomes answers an input in one of the ways. -/
def Served (strategy : Strategy) (i : Input) (t t' : Turn) : Prop :=
  t.Serves strategy i t'.said t'.session.openWaiters t'.session.closeWaiters

section
variable {t t' : Turn} {strategy : Strategy} {i : Input}

theorem Serves.served {said : List Action} {opens closes : List Waiter}
    (h : t.Serves strategy i said opens closes) (hs : t'.said = said)
    (ho : t'.session.openWaiters = opens) (hc : t'.session.closeWaiters = closes) :
    t.Served strategy i t' := by
  subst hs ho hc
  exact h

/-! ## What inputs make a task say -/

theorem onOpen_served (hs : t.said = []) (w : Waiter) :
    t.Served strategy (.command (.opening w)) (t.onOpen w) := by
  have hresolve : ∀ result, t.Serves strategy (.command (.opening w)) [.resolve w result]
      t.session.openWaiters t.session.closeWaiters →
      t.Served strategy (.command (.opening w)) (t.resolve w result) :=
    fun result h => h.served (by simp [hs]) rfl rfl
  have hlive : t.state.isLive = true → t.Served strategy (.command (.opening w))
      (t.resolve w (if t.session.closing then .error .sessionClosed else .ok ())) := by
    intro hl
    cases hc : t.session.closing with
    | true =>
      refine hresolve _ (.closed (.inr ⟨?_, hc⟩))
      rcases SessionState.isLive_iff_status.1 hl with hst | hst <;> simp [hst]
    | false => exact hresolve _ (.welcome hl hc)
  unfold onOpen
  split
  · next hst => exact hresolve _ (.expired hst)
  · next hst => exact hresolve _ (.closed (.inl hst))
  · next hst => exact hlive (by simp [SessionState.isLive, hst])
  · next hst => exact hlive (by simp [SessionState.isLive, hst])
  · next hst =>
    cases hc : t.session.closing with
    | true => exact hresolve _ (.closed (.inr ⟨by simp [hst], hc⟩))
    | false =>
      dsimp only
      rw [if_neg Bool.false_ne_true]
      split <;> exact (Serves.join hst hc).served (by simp [hs]) (by simp) (by simp)

theorem onClose_served (hs : t.said = []) (w : Waiter) :
    t.Served strategy (.command (.closing w)) (t.onClose w) := by
  rw [onClose_eq]
  cases hended : t.state.isEnded with
  | true => exact (Serves.already hended).served (by simp [hs]) rfl rfl
  | false =>
    cases hclosing : t.session.closing with
    | true =>
      exact (Serves.await hended (.inl hclosing)).served (by simp [awaitEnd, hs]) rfl rfl
    | false =>
      cases hid : t.state.sessionId with
      | some id =>
        refine (Serves.await hended (.inr (by simp [hid]))).served ?_ ?_ ?_ <;>
          simp [hs, beginEnd_said, Session.setTimer]
      | none =>
        cases hreg : t.session.registering with
        | true =>
          refine (Serves.leave hended hclosing hid).served ?_ ?_ ?_ <;> simp [hs]
        | false =>
          refine (Serves.quit hended hclosing hid).served ?_ ?_ ?_ <;>
            simp [hs, Session.setTimer]

theorem onTimer_served (hs : t.said = []) (id : Nat) (purpose : Purpose) :
    t.Served strategy (.event (.timer id purpose)) (t.onTimer id purpose) := by
  refine (Serves.silent (by intro h; cases h)).served ?_ ?_ ?_ <;>
  · unfold onTimer fired
    cases purpose <;> dsimp only <;> split <;>
      first
      | rfl
      | assumption
      | (split <;> simp [hs, Session.setTimer])
      | simp [hs, Session.setTimer]

theorem onRegistered_served (hs : t.said = []) (attempt : UInt32)
    (result : Except ConnectionError RegisterResponse) :
    t.Served strategy (.event (.registered attempt result))
      (t.onRegistered strategy attempt result) := by
  unfold onRegistered
  dsimp only
  cases hr : refusal? result with
  | ok r =>
    have haccepted : (Input.event (.registered attempt result)).accepted? = some r :=
      Input.accepted?_eq_some.2 ⟨attempt, result, rfl, hr⟩
    obtain ⟨interval, hi⟩ := (t.update fun s => { s with registering := false }).accept_session r
    dsimp only [onAccepted]
    cases hc : t.session.closing with
    | true =>
      rw [if_pos (by simp [hi, hc])]
      refine (Serves.silent fun _ => hc).served ?_ ?_ ?_ <;> simp [hs, hi, Session.setTimer]
    | false =>
      rw [if_neg (by simp [hi, hc])]
      refine (Serves.opened haccepted hc).served ?_ ?_ ?_ <;>
        simp [hs, hi, scheduleKeepAlive, Session.setTimer]
  | error failure =>
    have hrefused : (Input.event (.registered attempt result)).accepted? = none := by
      simp [Input.accepted?, hr, Except.toOption]
    dsimp only [onRefused]
    cases hc : t.session.closing with
    | true =>
      rw [if_pos (by simp [hc])]
      refine (Serves.ended hrefused fun _ => hc).served ?_ ?_ ?_ <;> simp [hs]
    | false =>
      rw [if_neg (by simp [hc])]
      simp only [consult, update_session]
      generalize hd : strategy.decide t.session.consultations { number := attempt, failure } = d
      cases d with
      | now =>
        refine (Serves.retry hr hc hd (by simp)).served ?_ ?_ ?_ <;> simp [hs, Action.isSaid]
      | after delay =>
        refine (Serves.retry hr hc hd (by simp)).served ?_ ?_ ?_ <;>
          simp [hs, Action.isSaid, Session.setTimer]
      | fail error =>
        refine (Serves.gaveUp hr hc hd).served ?_ ?_ ?_ <;> simp [hs, Action.isSaid]

theorem onKeptAlive_served (hs : t.said = []) (result : Except ConnectionError KeepAliveResponse) :
    t.Served strategy (.event (.keptAlive result)) (t.onKeptAlive result) := by
  have hfailed : t.onHeartbeatFailed.said = [] ∧
      t.onHeartbeatFailed.session.openWaiters = t.session.openWaiters ∧
      t.onHeartbeatFailed.session.closeWaiters = t.session.closeWaiters := by
    unfold onHeartbeatFailed
    split <;> simp [hs, scheduleKeepAlive, Session.setTimer]
  have hsilent : t.Serves strategy (.event (.keptAlive result)) [] _ _ :=
    .silent (by intro h; cases h)
  unfold onKeptAlive
  split
  · exact hsilent.served hs rfl rfl
  · split
    · refine hsilent.served ?_ ?_ ?_ <;> 
        simp [hs, onRenewed, scheduleKeepAlive, Session.setTimer]
    · refine hsilent.served ?_ ?_ ?_ <;> simp [hs]
    · exact hsilent.served hfailed.1 hfailed.2.1 hfailed.2.2

theorem onUnregistered_served (hs : t.said = [])
    (result : Except ConnectionError UnregisterResponse) :
    t.Served strategy (.event (.unregistered result)) (t.onUnregistered result) := by
  have hsilent : t.Serves strategy (.event (.unregistered result)) [] _ _ :=
    .silent (by intro h; cases h)
  unfold onUnregistered
  cases hended : t.state.isEnded with
  | true => exact hsilent.served hs rfl rfl
  | false =>
    have hfinish : ∀ status, t.Served strategy (.event (.unregistered result))
        (t.finishClose status) := by
      intro status
      refine (Serves.ended rfl (by intro h; cases h)).served ?_ ?_ ?_ <;> simp [hs, finishClose]
    rw [if_neg Bool.false_ne_true]
    split
    · exact hfinish _
    · exact hfinish _
    · unfold onUnregisterFailed
      split <;> refine hsilent.served ?_ ?_ ?_ <;> simp [hs, Session.setTimer]

/-- **Whatever the input, the task answers in one of the ways.** -/
theorem handle_served (hs : t.said = []) (strategy : Strategy) (i : Input) :
    t.Served strategy i (t.handle strategy i) := by
  rcases i with (w | w) | (⟨id, purpose⟩ | ⟨attempt, result⟩ | result | result)
  · exact onOpen_served hs w
  · exact onClose_served hs w
  · exact onTimer_served hs id purpose
  · exact onRegistered_served hs attempt result
  · exact onKeptAlive_served hs result
  · exact onUnregistered_served hs result

end

/-! ## Who is answered, and why -/

section
variable {t : Turn} {strategy : Strategy} {i : Input} {said : List Action}
variable {opens closes : List Waiter} {w : Waiter} {result : Except SessionError Unit}

theorem mem_said {a : Action} (ha : a.isSaid = true) : a ∈ t.said ↔ a ∈ t.actions := by
  simp [Turn.said, ha]

theorem said_answered (t : Turn) :
    t.said.filterMap Action.answered? = t.actions.filterMap Action.answered? := by
  rw [Turn.said, List.filterMap_filter]
  refine congrArg (fun f => t.actions.filterMap f) (funext fun a => ?_)
  cases a <;> rfl

theorem resolve_mem_answers {waiters : List Waiter} {result' : Except SessionError Unit} :
    .resolve w result ∈ answers waiters result' ↔ w ∈ waiters ∧ result' = result := by
  simp [answers, and_comm]

/-- Those who are failed get the error itself, or its echo. -/
theorem of_mem_failures {e : SessionError} {waiters : List Waiter}
    (h : .resolve w result ∈ failures e waiters) :
    w ∈ waiters ∧ ∃ e', result = .error e' ∧ (e' = e ∨ e' = e.echo) := by
  cases waiters with
  | nil => cases h
  | cons first rest =>
    rcases List.mem_append.1 h with h | h
    · obtain ⟨hw, rfl⟩ := resolve_mem_answers.1 h
      exact ⟨List.mem_cons_of_mem _ hw, _, rfl, .inr rfl⟩
    · cases List.mem_singleton.1 h
      exact ⟨List.mem_cons_self, _, rfl, .inl rfl⟩

theorem mem_failures {waiters : List Waiter} (e : SessionError) (h : w ∈ waiters) :
    ∃ e', .resolve w (.error e') ∈ failures e waiters ∧ (e' = e ∨ e' = e.echo) := by
  cases waiters with
  | nil => cases h
  | cons first rest =>
    rcases List.mem_cons.1 h with rfl | h
    · exact ⟨e, List.mem_append_right _ (List.mem_singleton_self _), .inl rfl⟩
    · exact ⟨e.echo, List.mem_append_left _ (resolve_mem_answers.2 ⟨h, rfl⟩), .inr rfl⟩

@[simp] theorem answers_answered (waiters : List Waiter) :
    (answers waiters result).filterMap Action.answered? = waiters := by
  simp [answers, List.filterMap_map, Function.comp_def, Action.answered?]

theorem failures_answered (e : SessionError) (waiters : List Waiter) :
    ((failures e waiters).filterMap Action.answered?).Perm waiters := by
  cases waiters with
  | nil => exact .refl _
  | cons first rest =>
    simp only [failures, List.filterMap_append, answers_answered]
    exact List.perm_append_singleton first rest

/-- Who has been answered, and who still waits, are those who have waited and who asks. -/
theorem Serves.perm (h : t.Serves strategy i said opens closes) :
    (said.filterMap Action.answered? ++ (opens ++ closes)).Perm
      (t.session.openWaiters ++ t.session.closeWaiters ++
        (i.command?.map Command.waiter).toList) := by
  have hfail (e : SessionError) (w : Waiter) :
      ((failures e t.session.openWaiters).filterMap Action.answered?).count w =
        t.session.openWaiters.count w := (failures_answered e _).count_eq w
  rw [List.perm_iff_count]
  intro w
  cases h <;>
    simp [Input.command?, Action.answered?, Command.waiter, hfail, List.count_cons,
      List.filterMap_cons] <;> omega

/-- The strategy gives up in one way. -/
theorem Serves.gave_up (h : t.Serves strategy i said opens closes) {a : Attempt}
    {error : Option SessionError} (hs : .consult a (.fail error) ∈ said) :
    said = .consult a (.fail error) :: failures (error.getD .gaveUp) t.session.openWaiters ∧
      opens = [] ∧ i.call? = some .register ∧ i.accepted? = none ∧ t.session.closing = false ∧
      strategy.decide t.session.consultations a = .fail error := by
  have hanswers (ws : List Waiter) (result : Except SessionError Unit) :
      .consult a (.fail error) ∉ answers ws result := by
    simp [answers]
  have hfailures (e : SessionError) (ws : List Waiter) :
      .consult a (.fail error) ∉ failures e ws := by
    cases ws <;> simp [failures, hanswers]
  cases h with
  | gaveUp hr hc hd =>
    simp only [List.mem_cons, hfailures, or_false, Action.consult.injEq, Decision.fail.injEq] at hs
    obtain ⟨rfl, rfl⟩ := hs
    refine ⟨rfl, rfl, rfl, ?_, hc, hd⟩
    simp [Input.accepted?, hr, Except.toOption]
  | retry _ _ _ hd =>
    simp only [List.mem_singleton, Action.consult.injEq] at hs
    exact absurd hs.2.symm (hd error)
  | _ => simp [hanswers, hfailures] at hs

/-- Why a caller is given an answer, in a turn that says `said` and leaves those in `closes`
    waiting for the session to close. -/
inductive Reason (t : Turn) (said : List Action) (closes : List Waiter) (i : Input)
    (w : Waiter) : Except SessionError Unit → Prop
  | expired : i = .command (.opening w) → t.state.status = some .expired →
      Reason t said closes i w (.error .sessionExpired)
  | closed : i = .command (.opening w) → t.state.status = some .closed ∨
        t.state.status ≠ some .expired ∧ t.session.closing = true →
      Reason t said closes i w (.error .sessionClosed)
  | welcome : i = .command (.opening w) → t.state.isLive = true → t.session.closing = false →
      Reason t said closes i w (.ok ())
  | left {w'} : w ∈ t.session.openWaiters → i = .command (.closing w') →
      t.state.isEnded = false → Reason t said closes i w (.error .sessionClosed)
  | opened {r} : w ∈ t.session.openWaiters → i.accepted? = some r → t.session.closing = false →
      Reason t said closes i w (.ok ())
  | gaveUp {a error e} : w ∈ t.session.openWaiters → .consult a (.fail error) ∈ said →
      e = error.getD .gaveUp ∨ e = (error.getD .gaveUp).echo → Reason t said closes i w (.error e)
  | already : i = .command (.closing w) → t.state.isEnded = true → Reason t said closes i w (.ok ())
  | ended : w ∈ t.session.closeWaiters ∨ i = .command (.closing w) → closes = [] →
      Reason t said closes i w (.ok ())

/-- **Every answer has a reason.** -/
theorem Serves.reason (h : t.Serves strategy i said opens closes)
    (hs : .resolve w result ∈ said) : t.Reason said closes i w result := by
  have hleft : ∀ said w', .resolve w result ∈ failures .sessionClosed t.session.openWaiters →
      t.state.isEnded = false → t.Reason said closes (.command (.closing w')) w result := by
    intro said w' hf he
    obtain ⟨hw, e', rfl, rfl | rfl⟩ := of_mem_failures hf
    · exact .left hw rfl he
    · exact .left hw rfl he
  cases h with
  | silent => cases hs
  | retry => cases List.mem_singleton.1 hs
  | expired hst => cases List.mem_singleton.1 hs; exact .expired rfl hst
  | closed hst => cases List.mem_singleton.1 hs; exact .closed rfl hst
  | welcome hl hc => cases List.mem_singleton.1 hs; exact .welcome rfl hl hc
  | join => cases hs
  | already he => cases List.mem_singleton.1 hs; exact .already rfl he
  | await => cases hs
  | leave he => exact hleft _ _ hs he
  | quit he =>
    rcases List.mem_append.1 hs with hs | hs
    · exact hleft _ _ hs he
    · obtain ⟨hw, rfl⟩ := resolve_mem_answers.1 hs
      refine .ended ((List.mem_append.1 hw).imp id fun hw => ?_) rfl
      rw [List.mem_singleton.1 hw]
  | opened ha hc =>
    obtain ⟨hw, rfl⟩ := resolve_mem_answers.1 hs
    exact .opened hw ha hc
  | gaveUp hr hc hd =>
    rcases List.mem_cons.1 hs with hs | hs
    · cases hs
    · obtain ⟨hw, e', rfl, he⟩ := of_mem_failures hs
      exact .gaveUp hw List.mem_cons_self he
  | ended ha =>
    obtain ⟨hw, rfl⟩ := resolve_mem_answers.1 hs
    exact .ended (.inl hw) rfl

end

end Turn

end ClusterSession
