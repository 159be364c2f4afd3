/-
  ClusterSession: what a session task does next.

  * `Plan`: a call now, a timer for a call later, or neither.
  * `Turn.plan`: the plan of the task when it handles an input; `Turn.Grounds`: what each
    plan rests on.
  * `handle_follows`: the task makes the call of its plan and sets its timer, and no other;
    and it takes over the interval with the session.
  * `Handles.timer_cases`: a timer is in its slot because it was there before, and the task
    had no plan, or because it was planned.
-/
import ClusterSession.Proofs.Session.Changes
import ClusterSession.Proofs.Session.Chronicles

namespace ClusterSession

/-- The call that a timer is for. -/
def Purpose.call : Purpose → Method
  | keepAlive => .keepAlive
  | unregister => .unregister
  | register _ => .register

/-- A timer that was set, with its delay. -/
structure Alarm extends Armed where
  delay : Duration
deriving DecidableEq, Repr

/-- The timer that an action sets, with its delay. -/
def Action.alarm? : Action → Option Alarm
  | arm id purpose delay => some { id, purpose, delay }
  | _ => none

theorem Action.alarm?_eq_none {a : Action} (h : a.armed? = none) : a.alarm? = none := by
  cases a <;> first | rfl | cases h

namespace Turn

/-- The timers that the turn has set so far, with their delays. -/
def alarms (t : Turn) : List Alarm := t.actions.filterMap Action.alarm?

section
variable (t : Turn)

@[simp] theorem act_alarms (a : Action) : (t.act a).alarms = t.alarms ++ a.alarm?.toList := by
  cases h : a.alarm? <;> simp [act, alarms, h]

@[simp] theorem update_alarms (f : Session → Session) : (t.update f).alarms = t.alarms := rfl

@[simp] theorem become_alarms (status : SessionStatus) :
    (t.become status).alarms = t.alarms := rfl

@[simp] theorem follow_alarms (leader : Option Address) (members : List Address) :
    (t.follow leader members).alarms = t.alarms := rfl

@[simp] theorem forgetLeader_alarms : t.forgetLeader.alarms = t.alarms := rfl

@[simp] theorem cancel_alarms (slot : Slot) : (t.cancel slot).alarms = t.alarms := by
  unfold cancel; split <;> simp [Action.alarm?]

@[simp] theorem cancelAll_alarms : t.cancelAll.alarms = t.alarms := by simp [cancelAll]

@[simp] theorem schedule_alarms (slot : Slot) (purpose : Purpose) (delay : Duration) :
    (t.schedule slot purpose delay).alarms =
      t.alarms ++ [{ id := t.session.timersSet + 1, purpose, delay }] := by
  simp [schedule, Action.alarm?]

/-- An answer sets no timer. -/
@[simp] theorem answers_alarms (waiters : List Waiter) (result : Except SessionError Unit) :
    (answers waiters result).filterMap Action.alarm? = [] := by
  simp [answers, List.filterMap_eq_nil_iff, Action.alarm?]

@[simp] theorem failures_alarms (e : SessionError) (waiters : List Waiter) :
    (failures e waiters).filterMap Action.alarm? = [] := by
  cases waiters <;> simp [failures, Action.alarm?]

@[simp] theorem completeOpen_alarms : t.completeOpen.alarms = t.alarms := by
  simp [completeOpen_eq, alarms]

@[simp] theorem completeClose_alarms : t.completeClose.alarms = t.alarms := by
  simp [completeClose_eq, alarms]

@[simp] theorem failOpen_alarms (e : SessionError) : (t.failOpen e).alarms = t.alarms := by
  simp [failOpen_eq, alarms]

@[simp] theorem register_alarms (attempt : UInt32) : (t.register attempt).alarms = t.alarms := by
  simp [register, Action.alarm?]

@[simp] theorem keepAlive_alarms : t.keepAlive.alarms = t.alarms := by
  unfold keepAlive; split <;> simp [Action.alarm?]

@[simp] theorem unregister_alarms : t.unregister.alarms = t.alarms := by
  unfold unregister; dsimp only; split <;> simp [Action.alarm?]

@[simp] theorem accept_alarms (r : RegisterResponse) : (t.accept r).alarms = t.alarms := by
  obtain ⟨interval, h⟩ := t.accept_eq r
  rw [h]; rfl

/-- A session is registered with half its timeout as the interval. -/
theorem accept_interval (r : RegisterResponse) :
    (t.accept r).session.interval = (Duration.ofMillis r.timeout.toNat).half := rfl

end

end Turn

/-! ## Plans -/

/-- What a task does next. -/
inductive Plan where
  | nothing
  /-- It makes a call. -/
  | now (c : Method)
  /-- It sets a timer. -/
  | later (purpose : Purpose) (delay : Duration)
deriving DecidableEq

namespace Plan

/-- The call that is made. -/
def call? : Plan → Option Method
  | now c => some c
  | _ => none

/-- The timer that is set, with its number. -/
def alarm? (id : Nat) : Plan → Option Alarm
  | later purpose delay => some { id, purpose, delay }
  | _ => none

end Plan

namespace Turn

/-- A call that names the session is made, if there is one. -/
def ask (c : Method) (t : Turn) : Plan :=
  if t.state.sessionId.isSome then .now c else .nothing

/-- A call that has failed is made again: at once, if a leader was known, and if not, later. -/
def retry (purpose : Purpose) (t : Turn) : Plan :=
  if t.selector.leader.isSome then t.ask purpose.call else .later purpose t.session.interval

/-- What the task does next when it handles an input. -/
def plan (strategy : Strategy) (t : Turn) : Input → Plan
  | .command (.opening _) =>
    if t.state.status = none ∧ t.session.closing = false ∧ t.session.registering = false ∧
      t.session.registerTimer = none then .now .register
    else .nothing
  | .command (.closing _) =>
    if t.state.isEnded || t.session.closing then .nothing else t.ask .unregister
  | .event (.timer id purpose) =>
    if t.session.timer purpose.slot = some id then
      match purpose with
      | .keepAlive => if t.session.closing then .nothing else t.ask .keepAlive
      | .unregister => t.ask .unregister
      | .register _ => if t.session.closing then .nothing else .now .register
    else .nothing
  | .event (.registered attempt result) =>
    match refusal? result with
    | .ok r =>
      if t.session.closing then .now .unregister
      else .later .keepAlive (Duration.ofMillis r.timeout.toNat).half
    | .error failure =>
      if t.session.closing then .nothing
      else match strategy.decide t.session.consultations { number := attempt, failure } with
        | .now => .now .register
        | .after delay => .later (.register (nextAttempt attempt)) delay
        | .fail _ => .nothing
  | .event (.keptAlive result) =>
    if t.session.closing || !t.state.isLive then .nothing
    else match Outcome.of (result.map (·.toVerdict)) with
      | .ok => .later .keepAlive t.session.interval
      | .unknownSession => .nothing
      | .failed => t.retry .keepAlive
  | .event (.unregistered result) =>
    if t.state.isEnded then .nothing
    else match Outcome.of (result.map (·.toVerdict)) with
      | .failed => t.retry .unregister
      | _ => .nothing

/-- The interval of the task after it has handled an input. -/
def beat (t : Turn) (i : Input) : Duration :=
  i.accepted?.elim t.session.interval fun r => (Duration.ofMillis r.timeout.toNat).half

/-- The task goes from turn `t` to turn `t'` as it is planned. -/
structure Follows (t t' : Turn) (plan : Plan) (interval : Duration) : Prop where
  calls : t'.calls = t.calls ++ plan.call?.toList
  alarms : t'.alarms = t.alarms ++ (plan.alarm? (t.session.timersSet + 1)).toList
  timer : ∀ purpose delay, plan = .later purpose delay →
    t'.session.timer purpose.slot = some (t.session.timersSet + 1)
  interval : t'.session.interval = interval

namespace Follows
variable {t t' : Turn} {plan : Plan} {interval : Duration}

theorem nothing (hc : t'.errands = t.errands) (ha : t'.alarms = t.alarms)
    (hi : t'.session.interval = interval) : t.Follows t' .nothing interval :=
  ⟨by simp [Turn.calls, Plan.call?, hc], by simp [Plan.alarm?, ha], nofun, hi⟩

theorem now {c : Method} (hc : t'.calls = t.calls ++ [c]) (ha : t'.alarms = t.alarms)
    (hi : t'.session.interval = interval) : t.Follows t' (.now c) interval :=
  ⟨hc, by simp [Plan.alarm?, ha], nofun, hi⟩

/-- A timer is set at the end of the turn. -/
theorem later (purpose : Purpose) {delay : Duration} (hc : t'.errands = t.errands)
    (ha : t'.alarms = t.alarms) (hn : t'.session.timersSet = t.session.timersSet)
    (hi : t'.session.interval = interval) :
    t.Follows (t'.schedule purpose.slot purpose delay) (.later purpose delay) interval := by
  refine ⟨by simp [Turn.calls, Plan.call?, hc], by simp [Plan.alarm?, ha, hn], ?_, ?_⟩
  · rintro _ _ ⟨⟩
    rw [schedule_session, hn]
    cases purpose <;> rfl
  · rw [schedule_session, ← hi]
    cases purpose <;> rfl

/-- What a turn has done before, as far as plans are concerned, is as good as nothing. -/
theorem after {u : Turn} (h : u.Follows t' plan interval) (hc : u.errands = t.errands)
    (ha : u.alarms = t.alarms) (hn : u.session.timersSet = t.session.timersSet) :
    t.Follows t' plan interval :=
  ⟨by rw [h.calls, Turn.calls, Turn.calls, hc], by rw [h.alarms, ha, hn], hn ▸ h.timer, h.interval⟩

end Follows

section
variable (t : Turn)

theorem keepAlive_follows :
    t.Follows t.keepAlive (t.ask .keepAlive) t.session.interval := by
  have hi : t.keepAlive.session.interval = t.session.interval := by simp
  unfold ask
  split
  · next h => exact .now (keepAlive_calls h) t.keepAlive_alarms hi
  · next h =>
    refine .nothing ?_ t.keepAlive_alarms hi
    unfold Turn.keepAlive
    rw [Option.not_isSome_iff_eq_none.1 h]

theorem unregister_follows :
    t.Follows t.unregister (t.ask .unregister) t.session.interval := by
  have hi : t.unregister.session.interval = t.session.interval := by simp [Session.setTimer]
  unfold ask
  split
  · next h => exact .now (unregister_calls h) t.unregister_alarms hi
  · next h =>
    refine .nothing ?_ t.unregister_alarms hi
    unfold Turn.unregister
    simp [Option.not_isSome_iff_eq_none.1 h]

/-- An answer to a caller is no plan. -/
theorem resolve_follows (w : Waiter) (result : Except SessionError Unit) :
    t.Follows (t.resolve w result) .nothing t.session.interval :=
  .nothing (by simp [resolve, Action.errand?]) (by simp [resolve, Action.alarm?]) rfl

theorem onOpen_follows (strategy : Strategy) (w : Waiter) :
    t.Follows (t.onOpen w) (t.plan strategy (.command (.opening w))) t.session.interval := by
  have hset : t.state.status ≠ none → t.plan strategy (.command (.opening w)) = .nothing :=
    fun hs => if_neg fun h => hs h.1
  unfold onOpen
  split
  · next hs => exact hset (by simp [hs]) ▸ t.resolve_follows w _
  · next hs => exact hset (by simp [hs]) ▸ t.resolve_follows w _
  · next hs => exact hset (by simp [hs]) ▸ t.resolve_follows w _
  · next hs => exact hset (by simp [hs]) ▸ t.resolve_follows w _
  · next hs =>
    simp only [plan, hs, true_and]
    split
    · next hclosing =>
      rw [if_neg fun h => absurd (h.1.symm.trans hclosing) nofun]
      exact t.resolve_follows w _
    · next hclosing =>
      split
      · next hready =>
        rw [Bool.and_eq_true, Bool.not_eq_true'] at hready
        rw [if_pos ⟨by simpa using hclosing, hready.1, of_decide_eq_true hready.2⟩]
        exact .now (register_calls 1) (by simp) rfl
      · next hready =>
        rw [Bool.and_eq_true, Bool.not_eq_true'] at hready
        rw [if_neg fun h => hready ⟨h.2.1, decide_eq_true h.2.2⟩]
        exact .nothing rfl rfl rfl

theorem onClose_follows (strategy : Strategy) (w : Waiter) :
    t.Follows (t.onClose w) (t.plan strategy (.command (.closing w))) t.session.interval := by
  rw [onClose_eq]
  simp only [plan]
  cases t.state.isEnded with
  | true => exact t.resolve_follows w _
  | false =>
    cases t.session.closing with
    | true => exact .nothing rfl rfl rfl
    | false =>
      have hc : (t.beginEnd w).errands = t.errands := by simp [beginEnd, awaitEnd]
      have ha : (t.beginEnd w).alarms = t.alarms := by simp [beginEnd, awaitEnd]
      have hi : (t.beginEnd w).session.interval = t.session.interval := by simp
      cases hid : t.state.sessionId.isSome with
      | true =>
        have hask : t.ask .unregister = (t.beginEnd w).ask .unregister := by simp [ask]
        show t.Follows (t.beginEnd w).unregister (t.ask .unregister) _
        rw [hask, ← hi]
        exact (unregister_follows _).after hc ha (by simp)
      | false =>
        show t.Follows _ (t.ask .unregister) _
        rw [ask, hid]
        cases t.session.registering <;>
          exact .nothing (by simp [hc]) (by simp [ha]) (by simp [Session.setTimer])

theorem onTimer_follows (strategy : Strategy) (id : Nat) (purpose : Purpose) :
    t.Follows (t.onTimer id purpose) (t.plan strategy (.event (.timer id purpose)))
      t.session.interval := by
  simp only [plan]
  have hstale : t.session.timer purpose.slot ≠ some id → t.onTimer id purpose = t := by
    intro h
    unfold onTimer fired
    cases purpose <;> exact if_neg h
  by_cases hid : t.session.timer purpose.slot = some id
  · rw [if_pos hid]
    cases purpose with
    | keepAlive =>
      simp only [onTimer, fired, Purpose.slot] at hid ⊢
      rw [if_pos hid]
      show t.Follows (if t.session.closing then _ else _) _ _
      split
      · exact .nothing rfl rfl rfl
      · exact (keepAlive_follows (t.update _)).after rfl rfl rfl
    | unregister =>
      simp only [onTimer, fired, Purpose.slot] at hid ⊢
      rw [if_pos hid]
      exact (unregister_follows (t.update _)).after rfl rfl rfl
    | register attempt =>
      simp only [onTimer, fired, Purpose.slot] at hid ⊢
      rw [if_pos hid]
      show t.Follows (if t.session.closing then _ else _) _ _
      split
      · exact .nothing rfl rfl rfl
      · exact .now (register_calls attempt) (by simp) rfl
  · rw [if_neg hid, hstale hid]
    exact .nothing rfl rfl rfl

theorem onAccepted_follows (r : RegisterResponse) : t.Follows (t.onAccepted r)
    (if t.session.closing then .now .unregister
      else .later .keepAlive (Duration.ofMillis r.timeout.toNat).half)
    (Duration.ofMillis r.timeout.toNat).half := by
  obtain ⟨interval, hs⟩ := t.accept_session r
  have hi := t.accept_interval r
  unfold onAccepted
  dsimp only
  split
  · next hclosing =>
    have hask : (t.accept r).ask .unregister = .now .unregister := if_pos (by simp)
    rw [if_pos (by simpa [hs] using hclosing), ← hask, ← hi]
    refine (unregister_follows _).after ?_ ?_ ?_ <;> simp [hs]
  · next hclosing =>
    have hopen : (t.accept r).completeOpen.session.interval = (t.accept r).session.interval := by
      rw [completeOpen_session]
    rw [if_neg (by simpa [hs] using hclosing), ← hi, ← hopen]
    refine Follows.later .keepAlive ?_ ?_ ?_ rfl <;> simp [hs]

theorem onRefused_follows (strategy : Strategy) (a : Attempt) : t.Follows (t.onRefused strategy a)
    (if t.session.closing then .nothing
      else match strategy.decide t.session.consultations a with
        | .now => .now .register
        | .after delay => .later (.register (nextAttempt a.number)) delay
        | .fail _ => .nothing)
    t.session.interval := by
  unfold onRefused
  split
  · exact .nothing (by simp) (by simp) (by simp)
  · dsimp only [consult]
    cases strategy.decide t.session.consultations a with
    | now =>
      refine .now ?_ (by simp [Action.alarm?]) rfl
      rw [register_calls]
      simp [calls, Action.errand?]
    | after delay =>
      exact Follows.later (.register _) (by simp [Action.errand?])
        (by simp [Action.alarm?]) rfl rfl
    | fail error => exact .nothing (by simp [Action.errand?]) (by simp [Action.alarm?]) (by simp)

theorem onRegistered_follows (strategy : Strategy) (attempt : UInt32)
    (result : Except ConnectionError RegisterResponse) :
    t.Follows (t.onRegistered strategy attempt result)
      (t.plan strategy (.event (.registered attempt result)))
      (t.beat (.event (.registered attempt result))) := by
  simp only [onRegistered, plan, beat, Input.accepted?]
  cases refusal? result with
  | ok r => exact (onAccepted_follows (t.update _) r).after rfl rfl rfl
  | error failure => exact (onRefused_follows (t.update _) strategy _).after rfl rfl rfl

theorem onHeartbeatFailed_follows :
    t.Follows t.onHeartbeatFailed (t.retry .keepAlive) t.session.interval := by
  unfold onHeartbeatFailed retry
  split
  · exact (keepAlive_follows t.forgetLeader).after rfl rfl rfl
  · exact Follows.later .keepAlive rfl rfl rfl rfl

theorem onUnregisterFailed_follows :
    t.Follows t.onUnregisterFailed (t.retry .unregister) t.session.interval := by
  unfold onUnregisterFailed retry
  split
  · exact (unregister_follows t.forgetLeader).after rfl rfl rfl
  · exact Follows.later .unregister rfl rfl rfl rfl

theorem onKeptAlive_follows (strategy : Strategy)
    (result : Except ConnectionError KeepAliveResponse) :
    t.Follows (t.onKeptAlive result) (t.plan strategy (.event (.keptAlive result)))
      t.session.interval := by
  simp only [onKeptAlive, plan]
  split
  · exact .nothing rfl rfl rfl
  · cases result with
    | error e => exact t.onHeartbeatFailed_follows
    | ok r =>
      rw [show (Except.ok r).map (·.toVerdict) = .ok r.toVerdict from rfl]
      cases Outcome.of (.ok r.toVerdict) with
      | ok => exact Follows.later .keepAlive rfl rfl rfl rfl
      | unknownSession => exact .nothing (by simp) (by simp) (by simp)
      | failed => exact t.onHeartbeatFailed_follows

theorem onUnregistered_follows (strategy : Strategy)
    (result : Except ConnectionError UnregisterResponse) :
    t.Follows (t.onUnregistered result) (t.plan strategy (.event (.unregistered result)))
      t.session.interval := by
  simp only [onUnregistered, plan]
  split
  · exact .nothing rfl rfl rfl
  · cases Outcome.of (result.map (·.toVerdict)) with
    | failed => exact t.onUnregisterFailed_follows
    | _ => exact .nothing (by simp [finishClose]) (by simp [finishClose]) (by simp [finishClose])

/-- **The task makes the call of its plan and sets its timer, and no other**; and it takes over the
    interval with the session. -/
theorem handle_follows (strategy : Strategy) (i : Input) :
    t.Follows (t.handle strategy i) (t.plan strategy i) (t.beat i) := by
  rcases i with (w | w) | (⟨id, purpose⟩ | ⟨attempt, result⟩ | result | result)
  · exact t.onOpen_follows strategy w
  · exact t.onClose_follows strategy w
  · exact t.onTimer_follows strategy id purpose
  · exact t.onRegistered_follows strategy attempt result
  · exact t.onKeptAlive_follows strategy result
  · exact t.onUnregistered_follows strategy result

end

/-! ## What plans rest on -/

section
variable (strategy : Strategy) (t : Turn) {i : Input}

theorem plan_of_accepted {r : RegisterResponse} (h : i.accepted? = some r) :
    t.plan strategy i = if t.session.closing then .now .unregister
      else .later .keepAlive (Duration.ofMillis r.timeout.toNat).half := by
  obtain ⟨attempt, result, rfl, hr⟩ := Input.accepted?_eq_some.1 h
  simp only [plan, hr]

theorem plan_of_renewed (h : i.ended? = some (.keepAlive, .ok)) (hc : t.session.closing = false)
    (hl : t.state.isLive = true) : t.plan strategy i = .later .keepAlive t.session.interval := by
  rcases i with _ | (_ | _ | result | _) <;> try cases h
  have ho : Outcome.of (result.map (·.toVerdict)) = .ok := congrArg Prod.snd (Option.some.inj h)
  simp only [plan, hc, hl, ho]
  rfl

theorem plan_of_failed {purpose : Purpose} (h : i.ended? = some (purpose.call, .failed))
    (hc : purpose = .keepAlive → t.session.closing = false) (hl : t.state.isLive = true) :
    t.plan strategy i = t.retry purpose := by
  have he : t.state.isEnded = false := by
    rw [← Bool.not_eq_true, SessionState.isEnded_iff, SessionState.isLive_iff.1 hl]
    nofun
  rcases i with _ | (_ | _ | result | result)
  · cases h
  · cases h
  · cases h
  · obtain ⟨hp, ho⟩ := Prod.mk.inj (Option.some.inj h)
    cases purpose <;> try cases hp
    simp only [plan, hc rfl, hl, ho]
    rfl
  · obtain ⟨hp, ho⟩ := Prod.mk.inj (Option.some.inj h)
    cases purpose <;> try cases hp
    simp only [plan, he, ho]
    rfl

end

/-- What a plan rests on, when the task handles an input. -/
inductive Grounds (t : Turn) : Input → Plan → Prop
  | nothing {i} : Grounds t i .nothing
  /-- The session is to be registered. -/
  | enroll {i} : Grounds t i (.now .register)
  | enrollLater {i attempt delay} : i.call? = some .register →
      Grounds t i (.later (.register attempt) delay)
  /-- A timer has gone off. -/
  | fired {id c} {purpose : Purpose} : purpose.call = c → t.session.timer purpose.slot = some id →
      Grounds t (.event (.timer id purpose)) (.now c)
  /-- The session has been registered. -/
  | opened {i r} : i.accepted? = some r → t.session.closing = false →
      Grounds t i (.later .keepAlive (Duration.ofMillis r.timeout.toNat).half)
  /-- A heartbeat has renewed the session. -/
  | renewed {i} : i.ended? = some (.keepAlive, .ok) → t.session.closing = false →
      Grounds t i (.later .keepAlive t.session.interval)
  /-- The end is asked for. -/
  | part {w} : t.state.isEnded = false → t.session.closing = false →
      t.state.sessionId.isSome = true →
      Grounds t (.command (.closing w)) (.now .unregister)
  /-- The session has been registered, and its end had been asked for. -/
  | partLate {i r} : i.accepted? = some r → t.session.closing = true →
      Grounds t i (.now .unregister)
  /-- A call has failed while a leader was known. -/
  | again {i c} {purpose : Purpose} : purpose.call = c → i.ended? = some (c, .failed) →
      t.selector.leader.isSome = true → Grounds t i (.now c)
  /-- A call has failed while no leader was known. -/
  | rested {i} {purpose : Purpose} : i.ended? = some (purpose.call, .failed) →
      t.selector.leader = none → (purpose = .keepAlive → t.session.closing = false) →
      Grounds t i (.later purpose t.session.interval)

namespace Grounds
variable {t : Turn} {i : Input}

theorem ask {c : Method} (h : Grounds t i (.now c)) : Grounds t i (t.ask c) := by
  unfold Turn.ask
  split
  · exact h
  · exact .nothing

theorem retry {purpose : Purpose} (h : i.ended? = some (purpose.call, .failed))
    (hc : purpose = .keepAlive → t.session.closing = false) : Grounds t i (t.retry purpose) := by
  unfold Turn.retry
  split
  · next hl => exact ask (.again rfl h hl)
  · next hl => exact .rested h (Option.not_isSome_iff_eq_none.1 hl) hc

end Grounds

/-- **What the plans of a task rest on.** -/
theorem plan_grounds (strategy : Strategy) (t : Turn) (i : Input) :
    t.Grounds i (t.plan strategy i) := by
  rcases i with (w | w) | (⟨id, purpose⟩ | ⟨attempt, result⟩ | result | result)
  · simp only [plan]
    split
    · exact .enroll
    · exact .nothing
  · simp only [plan]
    split
    · exact .nothing
    · next h =>
      rw [Bool.not_eq_true, Bool.or_eq_false_iff] at h
      unfold ask
      split
      · next hid => exact .part h.1 h.2 hid
      · exact .nothing
  · simp only [plan]
    split
    · next hid =>
      cases purpose with
      | keepAlive =>
        dsimp only
        split
        · exact .nothing
        · exact Grounds.ask (.fired rfl hid)
      | unregister => exact Grounds.ask (.fired rfl hid)
      | register attempt =>
        dsimp only
        split
        · exact .nothing
        · exact .enroll
    · exact .nothing
  · cases hr : refusal? result with
    | ok r =>
      have ha := Input.accepted?_eq_some.2 ⟨attempt, result, rfl, hr⟩
      rw [plan_of_accepted strategy t ha]
      split
      · next hc => exact .partLate ha hc
      · next hc => exact .opened ha (by simpa using hc)
    | error failure =>
      simp only [plan, hr]
      split
      · exact .nothing
      · split
        · exact .enroll
        · exact .enrollLater rfl
        · exact .nothing
  · simp only [plan]
    split
    · exact .nothing
    · next h =>
      rw [Bool.not_eq_true, Bool.or_eq_false_iff] at h
      split
      · next ho => exact .renewed (by simp only [Input.ended?, ho]) h.1
      · exact .nothing
      · next ho => exact .retry (by simp only [Input.ended?, ho]; rfl) fun _ => h.1
  · simp only [plan]
    split
    · exact .nothing
    · split
      · next ho => exact .retry (by simp only [Input.ended?, ho]; rfl) nofun
      · exact .nothing

/-- A timer is set because of an outcome of its call, or of a registration. -/
theorem Grounds.call? {t : Turn} {i : Input} {purpose : Purpose} {delay : Duration}
    (h : t.Grounds i (.later purpose delay)) :
    i.call? = some purpose.call ∨ purpose = .keepAlive ∧ i.call? = some .register := by
  cases h with
  | enrollLater hc => exact .inl hc
  | opened ha =>
    obtain ⟨attempt, result, rfl, -⟩ := Input.accepted?_eq_some.1 ha
    exact .inr ⟨rfl, rfl⟩
  | renewed he => exact .inl (Input.call?_of_ended? he).1
  | rested he => exact .inl (Input.call?_of_ended? he).1

/-! ## Timers in their slots -/

/-- A timer that is in a slot was there before, or has been set in the turn. -/
def Slotted (before : Session) (t : Turn) : Prop :=
  ∀ slot id, t.session.timer slot = some id →
    before.timer slot = some id ∨ ∃ a ∈ t.alarms, a.id = id ∧ a.purpose.slot = slot

theorem Move.slotted {before : Session} {t t' : Turn} (hm : Move t t') (ht : t.Slotted before) :
    t'.Slotted before := by
  intro slot id h
  cases hm with
  | ask => simpa [Action.alarm?] using ht slot id h
  | tell _ hn => simpa [Action.alarm?_eq_none hn] using ht slot id h
  | schedule purpose delay =>
    rw [schedule_session] at h
    by_cases hs : slot = purpose.slot
    · refine .inr ⟨⟨⟨t.session.timersSet + 1, purpose⟩, delay⟩, by simp, ?_, hs.symm⟩
      subst hs
      cases purpose <;> exact Option.some.inj h
    · have hkeep : t.session.timer slot = some id := by
        rw [← h]
        cases slot <;> cases hp : purpose.slot <;> first | rfl | exact absurd hp.symm hs
      refine (ht slot id hkeep).imp_right ?_
      rintro ⟨a, ha, hrest⟩
      exact ⟨a, by rw [schedule_alarms]; exact List.mem_append_left _ ha, hrest⟩
  | empty emptied =>
    by_cases hs : slot = emptied
    · subst hs; simp at h
    · simp only [update_session, Session.timer_setTimer_of_ne _ _ hs] at h
      exact ht slot id h
  | note hf => exact ht slot id (by rw [← hf]; exact h)
  | _ => exact ht slot id h

/-- **A timer that is in a slot was there before, or has been set.** -/
theorem handle_slotted (strategy : Strategy) (t : Turn) (i : Input) :
    (t.handle strategy i).Slotted t.session :=
  (t.handle_moves strategy i).keeps (P := Slotted t.session) (fun _ _ => Move.slotted)
    fun _ _ h => .inl h

end Turn

/-- The phase in which a timer is in a slot. -/
def Slot.phase : Slot → Phase
  | keepAlive => .resting
  | unregister => .pausing
  | register => .retrying

theorem Slot.phase_injective {slot other : Slot} (h : slot.phase = other.phase) : slot = other := by
  cases slot <;> cases other <;> first | rfl | cases h

/-- While a timer is in its slot, at most a heartbeat has an outcome, which comes late. -/
theorem Phase.Leads.got_of_timer {slot : Slot} {q : Phase} {got : Option Method} {ms : List Method}
    (h : slot.phase.Leads got ms q) : got = none ∨ slot = .unregister ∧ got = some .keepAlive := by
  generalize hp : slot.phase = p at h
  cases h with
  | @ignore _ m hl =>
    subst hp
    cases slot <;> cases m <;> first | exact .inr ⟨rfl, rfl⟩ | cases hl
  | _ => cases slot <;> first | exact .inl rfl | cases hp

/-- While a timer stays in its slot, the task makes no call. -/
theorem Phase.Leads.calls_of_timer {slot : Slot} {got : Option Method} {ms : List Method}
    (h : slot.phase.Leads got ms slot.phase) : ms = [] := by
  generalize hq : slot.phase = q at h
  cases h with
  | stay | ignore => rfl
  | _ => cases slot <;> cases hq

namespace Life

section
variable {strategy : Strategy} {l l' : Life} {p : Phase} {i : Input}

/-- A timer is in a slot just in the phase of that slot. -/
theorem InPhase.timer_iff (hp : l.InPhase p) (slot : Slot) :
    (l.session.timer slot).isSome = true ↔ p = slot.phase := by
  have hl := hp.fits
  cases slot with
  | keepAlive =>
    exact ⟨fun h => Phase.eq_resting (hl.keepAliveTimer ▸ h),
      by rintro rfl; exact hl.keepAliveTimer⟩
  | unregister =>
    exact ⟨fun h => Phase.eq_pausing (hl.unregisterTimer ▸ h),
      by rintro rfl; exact hl.unregisterTimer⟩
  | register =>
    exact ⟨fun h => Phase.eq_retrying (hl.registerTimer ▸ h),
      by rintro rfl; exact hl.registerTimer⟩

/-- **An input takes the task from phase to phase as it plans.** -/
theorem Handles.planned (hh : l.Handles strategy l' i) (hp : l.InPhase p) :
    ∃ q, p.Leads i.call? (l.turn.plan strategy i).call?.toList q ∧ l'.InPhase q := by
  obtain ⟨q, hl, hq⟩ := hh.leads hp
  rw [(l.turn.handle_follows strategy i).calls] at hl
  exact ⟨q, hl, hq⟩

/-- A timer that is planned is in its slot afterwards. -/
theorem Handles.timer_of_later (hh : l.Handles strategy l' i) {purpose : Purpose}
    {delay : Duration} (h : l.turn.plan strategy i = .later purpose delay) :
    l'.session.timer purpose.slot = some (l.session.timersSet + 1) := by
  rw [hh.session]
  exact (l.turn.handle_follows strategy i).timer _ _ h

/-- While a timer is in its slot, at most a heartbeat has an outcome, which comes late. -/
theorem Handles.call?_of_timer (hh : l.Handles strategy l' i) (hp : l.InPhase p) {slot : Slot}
    (h : (l.session.timer slot).isSome = true) :
    i.call? = none ∨ slot = .unregister ∧ i.call? = some .keepAlive := by
  obtain ⟨q, hl, -⟩ := hh.planned hp
  obtain rfl := (hp.timer_iff slot).1 h
  exact hl.got_of_timer

/-- While a timer stays in its slot, the task has no plan. -/
theorem Handles.plan_of_timer (hh : l.Handles strategy l' i) (hp : l.InPhase p) {slot : Slot}
    (h : (l.session.timer slot).isSome = true) (h' : (l'.session.timer slot).isSome = true) :
    l.turn.plan strategy i = .nothing := by
  have hgot := hh.call?_of_timer hp h
  obtain ⟨q, hl, hq⟩ := hh.planned hp
  obtain rfl := (hp.timer_iff slot).1 h
  obtain rfl := (hq.timer_iff slot).1 h'
  have hcalls := hl.calls_of_timer
  cases hplan : l.turn.plan strategy i with
  | nothing => rfl
  | now c =>
    rw [hplan] at hcalls
    cases hcalls
  | later purpose delay =>
    -- the timer that is set is the one of the slot, and so its call has an outcome
    have hset := hh.timer_of_later hplan
    have hslot : purpose.slot = slot :=
      Slot.phase_injective ((hq.timer_iff purpose.slot).1 (Option.isSome_of_eq_some hset)).symm
    subst hslot
    have hground := l.turn.plan_grounds strategy i
    rw [hplan] at hground
    rcases hgot with hn | ⟨hs, hk⟩
    · rcases hground.call? with hc | ⟨-, hc⟩ <;> cases hn.symm.trans hc
    · cases purpose <;> cases hs
      rcases hground.call? with hc | ⟨-, hc⟩ <;> cases hk.symm.trans hc

/-- **A timer is in a slot because it was there before, and the task had no plan, or because it was
    planned.** -/
theorem Handles.timer_cases (hh : l.Handles strategy l' i) (hp : l.InPhase p) {slot : Slot}
    {id : Nat} (h : l'.session.timer slot = some id) :
    (l.session.timer slot = some id ∧ l.turn.plan strategy i = .nothing) ∨
      ∃ purpose delay, purpose.slot = slot ∧ l.turn.plan strategy i = .later purpose delay ∧
        id = l.session.timersSet + 1 := by
  have hf := l.turn.handle_follows strategy i
  rw [hh.session] at h
  rcases l.turn.handle_slotted strategy i slot id h with hold | ⟨a, ha, rfl, hslot⟩
  · exact .inl ⟨hold, hh.plan_of_timer hp (Option.isSome_of_eq_some hold)
      (hh.session ▸ Option.isSome_of_eq_some h)⟩
  · rw [hf.alarms] at ha
    cases hplan : l.turn.plan strategy i with
    | later purpose delay =>
      rw [hplan] at ha
      obtain rfl := List.mem_singleton.1 ha
      exact .inr ⟨purpose, delay, hslot, rfl, rfl⟩
    | _ =>
      rw [hplan] at ha
      cases ha

end

end Life

end ClusterSession
