/-
  ClusterSession: what a turn of a session task is made of.

  * `Turn.errands` and `Turn.armed`: the requests that a turn sends, and the
    timers that it sets.
  * The lemmas of the first part say what each single thing that a turn does
    leaves of the task, the state and the selector.
  * `Turn.Move`: the single things, each with what is known when it is done.
    `handle_moves`: whatever the input, the task does nothing else, so that
    whatever every move keeps is kept by every turn.
-/
import ClusterSession.Session.Handlers
import Mathlib.Logic.Relation

namespace ClusterSession

/-- The call that an errand makes. -/
def Errand.method (e : Errand) : Method := e.request.method

/-- The slot of the timers that are set for a purpose. -/
def Purpose.slot : Purpose → Slot
  | keepAlive => .keepAlive
  | unregister => .unregister
  | register _ => .register

/-- A timer that was set. -/
structure Armed where
  id : Nat
  purpose : Purpose
deriving DecidableEq, Repr

/-- The request that an action sends. -/
def Action.errand? : Action → Option Errand
  | request e => some e
  | _ => none

/-- The timer that an action sets. -/
def Action.armed? : Action → Option Armed
  | arm id purpose _ => some { id, purpose }
  | _ => none

/-! ## Timers -/

namespace Session

@[simp] theorem timer_setTimer_self (s : Session) (slot : Slot) (id : Option Nat) :
    (s.setTimer slot id).timer slot = id := by
  cases slot <;> rfl

@[simp] theorem timer_setTimer_of_ne (s : Session) {slot other : Slot} (id : Option Nat)
    (h : other ≠ slot) : (s.setTimer slot id).timer other = s.timer other := by
  cases slot <;> cases other <;> first | rfl | exact absurd rfl h

theorem timer_interval (s : Session) (interval : Duration) (slot : Slot) :
    timer { s with interval } slot = s.timer slot := by
  cases slot <;> rfl

/-- Emptying a slot that is empty changes nothing. -/
theorem setTimer_none (s : Session) {slot : Slot} (h : s.timer slot = none) :
    s.setTimer slot none = s := by
  cases slot <;> simp only [timer] at h <;> simp only [setTimer, ← h]

end Session

namespace Turn

/-- The requests that the turn has sent so far. -/
def errands (t : Turn) : List Errand := t.actions.filterMap Action.errand?

/-- The timers that the turn has set so far. -/
def armed (t : Turn) : List Armed := t.actions.filterMap Action.armed?

/-! ## Acting and updating -/

section
variable (t : Turn)

@[simp] theorem act_session (a : Action) : (t.act a).session = t.session := rfl

@[simp] theorem act_state (a : Action) : (t.act a).state = t.state := rfl

@[simp] theorem act_selector (a : Action) : (t.act a).selector = t.selector := rfl

@[simp] theorem act_errands (a : Action) :
    (t.act a).errands = t.errands ++ a.errand?.toList := by
  cases h : a.errand? <;> simp [act, errands, h]

@[simp] theorem act_armed (a : Action) : (t.act a).armed = t.armed ++ a.armed?.toList := by
  cases h : a.armed? <;> simp [act, armed, h]

@[simp] theorem update_session (f : Session → Session) :
    (t.update f).session = f t.session := rfl

@[simp] theorem update_state (f : Session → Session) : (t.update f).state = t.state := rfl

@[simp] theorem update_selector (f : Session → Session) :
    (t.update f).selector = t.selector := rfl

@[simp] theorem update_errands (f : Session → Session) : (t.update f).errands = t.errands := rfl

@[simp] theorem update_armed (f : Session → Session) : (t.update f).armed = t.armed := rfl

/-! ## Timers of a turn -/

@[simp] theorem cancel_session (slot : Slot) :
    (t.cancel slot).session = t.session.setTimer slot none := by
  unfold cancel
  cases h : t.session.timer slot with
  | none => exact (Session.setTimer_none _ h).symm
  | some id => rfl

@[simp] theorem cancel_state (slot : Slot) : (t.cancel slot).state = t.state := by
  unfold cancel; split <;> rfl

@[simp] theorem cancel_errands (slot : Slot) : (t.cancel slot).errands = t.errands := by
  unfold cancel; split <;> simp [Action.errand?]

@[simp] theorem cancel_armed (slot : Slot) : (t.cancel slot).armed = t.armed := by
  unfold cancel; split <;> simp [Action.armed?]

@[simp] theorem schedule_session (slot : Slot) (purpose : Purpose) (delay : Duration) :
    (t.schedule slot purpose delay).session =
      { t.session.setTimer slot (some (t.session.timersSet + 1)) with
        timersSet := t.session.timersSet + 1 } := by
  cases slot <;> simp [schedule, Session.setTimer]

@[simp] theorem schedule_state (slot : Slot) (purpose : Purpose) (delay : Duration) :
    (t.schedule slot purpose delay).state = t.state := by
  simp [schedule]

@[simp] theorem schedule_errands (slot : Slot) (purpose : Purpose) (delay : Duration) :
    (t.schedule slot purpose delay).errands = t.errands := by
  simp [schedule, Action.errand?]

@[simp] theorem schedule_armed (slot : Slot) (purpose : Purpose) (delay : Duration) :
    (t.schedule slot purpose delay).armed =
      t.armed ++ [{ id := t.session.timersSet + 1, purpose }] := by
  simp [schedule, Action.armed?]

/-! ## Status -/

@[simp] theorem become_session (status : SessionStatus) :
    (t.become status).session = t.session := rfl

@[simp] theorem become_state (status : SessionStatus) :
    (t.become status).state = (t.state.moveTo status).2 := rfl

@[simp] theorem become_errands (status : SessionStatus) :
    (t.become status).errands = t.errands := rfl

/-! ## Selector -/

@[simp] theorem follow_session (leader : Option Address) (members : List Address) :
    (t.follow leader members).session = t.session := rfl

@[simp] theorem follow_state (leader : Option Address) (members : List Address) :
    (t.follow leader members).state = t.state := rfl

@[simp] theorem follow_errands (leader : Option Address) (members : List Address) :
    (t.follow leader members).errands = t.errands := rfl

@[simp] theorem forgetLeader_session : t.forgetLeader.session = t.session := rfl

@[simp] theorem forgetLeader_state : t.forgetLeader.state = t.state := rfl

@[simp] theorem forgetLeader_errands : t.forgetLeader.errands = t.errands := rfl

/-! ## A registered session -/

/-- What a registered session changes.  The interval has a name of its own here, or else the
    kernel would compute with its nanoseconds. -/
theorem accept_eq (r : RegisterResponse) : ∃ interval, t.accept r =
    (((t.update fun s => { s with interval }).follow r.leader r.members).number
      r.session).become .opened :=
  ⟨_, rfl⟩

@[simp] theorem accept_state (r : RegisterResponse) :
    (t.accept r).state = ((t.state.assign r.session).2.moveTo .opened).2 := by
  obtain ⟨interval, h⟩ := t.accept_eq r
  rw [h]; rfl

@[simp] theorem accept_errands (r : RegisterResponse) : (t.accept r).errands = t.errands := by
  obtain ⟨interval, h⟩ := t.accept_eq r
  rw [h]; rfl

theorem accept_session (r : RegisterResponse) :
    ∃ interval, (t.accept r).session = { t.session with interval } := by
  obtain ⟨interval, h⟩ := t.accept_eq r
  exact ⟨interval, by rw [h]; rfl⟩

end

/-! ## Answers -/

/-- The answers that tell every one of `waiters` the same. -/
def answers (waiters : List Waiter) (result : Except SessionError Unit) : List Action :=
  waiters.map (.resolve · result)

/-- The answers that fail every one of `waiters`: the first gets `e` itself, and last. -/
def failures (e : SessionError) : List Waiter → List Action
  | [] => []
  | first :: rest => answers rest (.error e.echo) ++ [.resolve first (.error e)]

theorem resolveAll_eq (waiters : List Waiter) (result : Except SessionError Unit) (t : Turn) :
    t.resolveAll waiters result = { t with actions := t.actions ++ answers waiters result } := by
  induction waiters generalizing t with
  | nil => simp [resolveAll, answers]
  | cons w rest ih =>
    have h : t.resolveAll (w :: rest) result = (t.resolve w result).resolveAll rest result := rfl
    rw [h, ih]
    simp [resolve, act, answers]

theorem failAll_eq (waiters : List Waiter) (e : SessionError) (t : Turn) :
    t.failAll waiters e = { t with actions := t.actions ++ failures e waiters } := by
  cases waiters with
  | nil => simp [failAll, failures]
  | cons first rest => simp [failAll, resolveAll_eq, resolve, act, failures]

/-- An answer sends no request. -/
@[simp] theorem answers_errands (waiters : List Waiter) (result : Except SessionError Unit) :
    (answers waiters result).filterMap Action.errand? = [] := by
  simp [answers, List.filterMap_eq_nil_iff, Action.errand?]

@[simp] theorem failures_errands (e : SessionError) (waiters : List Waiter) :
    (failures e waiters).filterMap Action.errand? = [] := by
  cases waiters <;> simp [failures, Action.errand?]

theorem completeOpen_eq (t : Turn) :
    t.completeOpen = { t with
      session := { t.session with openWaiters := [] }
      actions := t.actions ++ answers t.session.openWaiters (.ok ()) } := by
  rw [completeOpen, resolveAll_eq]; rfl

theorem completeClose_eq (t : Turn) :
    t.completeClose = { t with
      session := { t.session with closeWaiters := [] }
      actions := t.actions ++ answers t.session.closeWaiters (.ok ()) } := by
  rw [completeClose, resolveAll_eq]; rfl

theorem failOpen_eq (e : SessionError) (t : Turn) :
    t.failOpen e = { t with
      session := { t.session with openWaiters := [] }
      actions := t.actions ++ failures e t.session.openWaiters } := by
  rw [failOpen, failAll_eq]; rfl

section
variable (t : Turn)

@[simp] theorem completeOpen_session :
    t.completeOpen.session = { t.session with openWaiters := [] } := by
  rw [completeOpen_eq]

@[simp] theorem completeOpen_state : t.completeOpen.state = t.state := by rw [completeOpen_eq]

@[simp] theorem completeOpen_errands : t.completeOpen.errands = t.errands := by
  simp [completeOpen_eq, errands]

@[simp] theorem completeClose_session :
    t.completeClose.session = { t.session with closeWaiters := [] } := by
  rw [completeClose_eq]

@[simp] theorem completeClose_state : t.completeClose.state = t.state := by rw [completeClose_eq]

@[simp] theorem completeClose_errands : t.completeClose.errands = t.errands := by
  simp [completeClose_eq, errands]

@[simp] theorem failOpen_session (e : SessionError) :
    (t.failOpen e).session = { t.session with openWaiters := [] } := by
  rw [failOpen_eq]

@[simp] theorem failOpen_state (e : SessionError) : (t.failOpen e).state = t.state := by
  rw [failOpen_eq]

@[simp] theorem failOpen_errands (e : SessionError) : (t.failOpen e).errands = t.errands := by
  simp [failOpen_eq, errands]

end

/-! ## Requests of a turn -/

section
variable (t : Turn)

@[simp] theorem register_session (attempt : UInt32) :
    (t.register attempt).session = { t.session with registering := true } := rfl

@[simp] theorem register_state (attempt : UInt32) : (t.register attempt).state = t.state := rfl

@[simp] theorem register_errands (attempt : UInt32) :
    (t.register attempt).errands =
      t.errands ++ [.register attempt { client := t.state.clientId }] := by
  simp [register, Action.errand?]

@[simp] theorem keepAlive_session : t.keepAlive.session = t.session := by
  unfold keepAlive; split <;> rfl

@[simp] theorem keepAlive_state : t.keepAlive.state = t.state := by
  unfold keepAlive; split <;> rfl

theorem keepAlive_errands {id : UInt64} (h : t.state.sessionId = some id) :
    t.keepAlive.errands = t.errands ++ [.keepAlive
      { session := id, commandSequence := t.state.commandResponse
        eventIndex := t.state.completeIndex }] := by
  unfold keepAlive; rw [h]; exact act_errands _ _

@[simp] theorem unregister_session :
    t.unregister.session = (t.session.setTimer .keepAlive none).setTimer .unregister none := by
  unfold unregister; dsimp only; split <;> simp

@[simp] theorem unregister_state : t.unregister.state = t.state := by
  unfold unregister; dsimp only; split <;> simp

theorem unregister_errands {id : UInt64} (h : t.state.sessionId = some id) :
    t.unregister.errands = t.errands ++ [.unregister { session := id }] := by
  unfold unregister; simp [h, Action.errand?]

@[simp] theorem cancelAll_session :
    t.cancelAll.session =
      { t.session with keepAliveTimer := none, unregisterTimer := none, registerTimer := none } := by
  simp [cancelAll, Session.setTimer]

@[simp] theorem cancelAll_state : t.cancelAll.state = t.state := by simp [cancelAll]

@[simp] theorem cancelAll_errands : t.cancelAll.errands = t.errands := by simp [cancelAll]

end

end Turn

/-! ## Moves -/

/-- The request of an errand tells of the session what its state says. -/
def Errand.Fits (state : SessionState) : Errand → Prop
  | register _ r => r.client = state.clientId
  | keepAlive r => state.sessionId = some r.session ∧
      r.commandSequence = state.commandResponse ∧ r.eventIndex = state.completeIndex
  | unregister r => state.sessionId = some r.session

namespace Turn

/-- A single thing that a task does while it handles an input. -/
inductive Move : Turn → Turn → Prop
  /-- It sends a request. -/
  | ask {t e} : e.Fits t.state → Move t (t.act (.request e))
  /-- It does something that neither sends a request nor sets a timer. -/
  | tell {t a} : a.errand? = none → a.armed? = none → Move t (t.act a)
  /-- It sets a timer, in the slot of its purpose. -/
  | schedule {t} (purpose : Purpose) (delay : Duration) :
      Move t (t.schedule purpose.slot purpose delay)
  /-- It empties a slot. -/
  | empty {t} (slot : Slot) : Move t (t.update (·.setTimer slot none))
  /-- It makes a note that has nothing to do with timers. -/
  | note {t f} : (∀ s slot, (f s).timer slot = s.timer slot) →
      (∀ s, (f s).timersSet = s.timersSet) → Move t (t.update f)
  | become {t} (status : SessionStatus) : Move t (t.become status)
  | number {t} (id : UInt64) : Move t (t.number id)
  | follow {t} (leader : Option Address) (members : List Address) :
      Move t (t.follow leader members)
  | forgetLeader {t} : Move t t.forgetLeader

/-- What a task does, thing after thing. -/
def Moves : Turn → Turn → Prop := Relation.ReflTransGen Move

namespace Moves

theorem start (t : Turn) : Moves t t := .refl

variable {t t' : Turn}

theorem next (h : Moves t t') {t'' : Turn} (hm : Move t' t'') : Moves t t'' := .tail h hm

theorem followed (h : Moves t t') {t'' : Turn} (h' : Moves t' t'') : Moves t t'' := .trans h h'

/-- What every single move keeps is kept. -/
theorem keeps {P : Turn → Prop} (hP : ∀ t t', Move t t' → P t → P t') (h : Moves t t')
    (ht : P t) : P t' := by
  induction h with
  | refl => exact ht
  | tail _ hm ih => exact hP _ _ hm ih

theorem note (h : Moves t t') {f : Session → Session}
    (hf : ∀ s slot, (f s).timer slot = s.timer slot := by intro _ slot; cases slot <;> rfl)
    (hn : ∀ s, (f s).timersSet = s.timersSet := by intro _; rfl) :
    Moves t (t'.update f) :=
  h.next (.note hf hn)

theorem become (h : Moves t t') (status : SessionStatus) : Moves t (t'.become status) :=
  h.next (.become status)

theorem follow (h : Moves t t') (leader : Option Address) (members : List Address) :
    Moves t (t'.follow leader members) :=
  h.next (.follow leader members)

theorem cancel (h : Moves t t') (slot : Slot) : Moves t (t'.cancel slot) := by
  unfold Turn.cancel
  split
  · exact (h.next (.tell rfl rfl)).next (.empty slot)
  · exact h

theorem cancelAll (h : Moves t t') : Moves t t'.cancelAll :=
  ((h.cancel _).cancel _).cancel _

theorem resolve (h : Moves t t') (w : Waiter) (result : Except SessionError Unit) :
    Moves t (t'.resolve w result) :=
  h.next (.tell rfl rfl)

theorem resolveAll (h : Moves t t') (waiters : List Waiter) (result : Except SessionError Unit) :
    Moves t (t'.resolveAll waiters result) := by
  induction waiters generalizing t' with
  | nil => exact h
  | cons w rest ih => exact ih (h.resolve w result)

theorem completeOpen (h : Moves t t') : Moves t t'.completeOpen :=
  (h.resolveAll _ _).note

theorem completeClose (h : Moves t t') : Moves t t'.completeClose :=
  (h.resolveAll _ _).note

theorem failOpen (h : Moves t t') (e : SessionError) : Moves t (t'.failOpen e) := by
  refine note ?_
  unfold failAll
  split
  · exact h
  · exact (h.resolveAll _ _).resolve _ _

theorem register (h : Moves t t') (attempt : UInt32) : Moves t (t'.register attempt) :=
  h.note.next (.ask rfl)

theorem keepAlive (h : Moves t t') : Moves t t'.keepAlive := by
  unfold Turn.keepAlive
  split
  · exact h
  · next hid => exact h.next (.ask ⟨hid, rfl, rfl⟩)

theorem scheduleKeepAlive (h : Moves t t') : Moves t t'.scheduleKeepAlive :=
  h.next (.schedule .keepAlive _)

theorem unregister (h : Moves t t') : Moves t t'.unregister := by
  have hc := (h.cancel .keepAlive).cancel .unregister
  unfold Turn.unregister
  dsimp only
  split
  · exact hc
  · next hid => exact hc.next (.ask hid)

end Moves

section
variable (t : Turn)

theorem onOpen_moves (w : Waiter) : Moves t (t.onOpen w) := by
  have h := Moves.start t
  unfold onOpen
  split
  · exact h.resolve _ _
  · exact h.resolve _ _
  · exact h.resolve _ _
  · exact h.resolve _ _
  · split
    · exact h.resolve _ _
    · have hw := h.note (f := fun s => { s with openWaiters := s.openWaiters ++ [w] })
      dsimp only
      split
      · exact hw.register 1
      · exact hw

theorem onClose_moves (w : Waiter) : Moves t (t.onClose w) := by
  have h := Moves.start t
  unfold onClose
  split
  · exact h.resolve _ _
  · have hw := h.note (f := fun s => { s with closeWaiters := s.closeWaiters ++ [w] })
    dsimp only
    split
    · exact hw
    · have hc := (hw.note (f := fun s => { s with closing := true })).cancel .keepAlive
      split
      · exact hc.unregister
      · split
        · exact hc.failOpen _
        · exact (((hc.failOpen _).cancel _).become _).completeClose

theorem accept_moves (r : RegisterResponse) : Moves t (t.accept r) := by
  have h := (Moves.start t).note
    (f := fun s => { s with interval := (Duration.ofMillis r.timeout.toNat).half })
    fun s slot => s.timer_interval _ slot
  exact ((h.follow _ _).next (.number _)).become _

theorem onAccepted_moves (r : RegisterResponse) : Moves t (t.onAccepted r) := by
  have h := t.accept_moves r
  unfold onAccepted
  dsimp only
  split
  · exact h.unregister
  · exact h.completeOpen.scheduleKeepAlive

theorem onRefused_moves (strategy : Strategy) (a : Attempt) :
    Moves t (t.onRefused strategy a) := by
  have h := Moves.start t
  unfold onRefused
  split
  · exact (h.become _).completeClose
  · have hc : Moves t (t.consult strategy a).2 :=
      h.note.next (.tell rfl rfl)
    dsimp only
    split
    · exact hc.register _
    · exact hc.next (.schedule (.register _) _)
    · exact hc.failOpen _

theorem onRegistered_moves (strategy : Strategy) (attempt : UInt32)
    (result : Except ConnectionError RegisterResponse) :
    Moves t (t.onRegistered strategy attempt result) := by
  have h := (Moves.start t).note (f := fun s => { s with registering := false })
  unfold onRegistered
  dsimp only
  split
  · exact h.followed (onAccepted_moves _ _)
  · exact h.followed (onRefused_moves _ _ _)

theorem onKeptAlive_moves (result : Except ConnectionError KeepAliveResponse) :
    Moves t (t.onKeptAlive result) := by
  have h := Moves.start t
  unfold onKeptAlive
  split
  · exact h
  · split
    · exact ((h.follow _ _).become _).scheduleKeepAlive
    · exact (h.become _).cancelAll
    · unfold onHeartbeatFailed
      split
      · exact (h.next .forgetLeader).keepAlive
      · exact (h.become _).scheduleKeepAlive

theorem onUnregistered_moves (result : Except ConnectionError UnregisterResponse) :
    Moves t (t.onUnregistered result) := by
  have h := Moves.start t
  unfold onUnregistered
  split
  · exact h
  · split
    · exact (h.become _).cancelAll.completeClose
    · exact (h.become _).cancelAll.completeClose
    · unfold onUnregisterFailed
      split
      · exact (h.next .forgetLeader).unregister
      · exact (h.become _).next (.schedule .unregister _)

theorem fired_moves {slot : Slot} {id : Nat} {go : Turn → Turn} (hgo : ∀ t, Moves t (go t)) :
    Moves t (t.fired slot id go) := by
  unfold fired
  split
  · exact ((Moves.start t).next (.empty slot)).followed (hgo _)
  · exact Moves.start t

/-- What is done when a timer goes off is made of moves, for each purpose. -/
theorem onTimer_eq_fired (id : Nat) (purpose : Purpose) :
    ∃ go : Turn → Turn, (∀ t, Moves t (go t)) ∧ t.onTimer id purpose = t.fired purpose.slot id go := by
  cases purpose with
  | keepAlive =>
    refine ⟨fun t => if t.session.closing then t else t.keepAlive, fun t => ?_, rfl⟩
    dsimp only
    split
    · exact Moves.start t
    · exact (Moves.start t).keepAlive
  | unregister => exact ⟨unregister, fun t => (Moves.start t).unregister, rfl⟩
  | register attempt =>
    refine ⟨fun t => if t.session.closing then t else t.register attempt, fun t => ?_, rfl⟩
    dsimp only
    split
    · exact Moves.start t
    · exact (Moves.start t).register attempt

theorem onTimer_moves (id : Nat) (purpose : Purpose) : Moves t (t.onTimer id purpose) := by
  obtain ⟨go, hgo, h⟩ := t.onTimer_eq_fired id purpose
  rw [h]
  exact t.fired_moves hgo

/-- **A turn is made of moves.** -/
theorem handle_moves (strategy : Strategy) (i : Input) : Moves t (t.handle strategy i) := by
  rcases i with (w | w) | (⟨id, purpose⟩ | ⟨attempt, result⟩ | result | result)
  · exact t.onOpen_moves w
  · exact t.onClose_moves w
  · exact t.onTimer_moves id purpose
  · exact t.onRegistered_moves strategy attempt result
  · exact t.onKeptAlive_moves result
  · exact t.onUnregistered_moves result

end

/-! ## What moves keep -/

/-- The number of a session stays. -/
theorem Move.sessionId {t t' : Turn} (h : Move t t') {id : UInt64}
    (ht : t.state.sessionId = some id) : t'.state.sessionId = some id := by
  cases h with
  | schedule => rw [schedule_state]; exact ht
  | become status =>
    simp only [become_state, SessionState.moveTo]
    split
    · exact ht
    · exact ht
  | number => simp only [Turn.number, SessionState.assign, ht]
  | _ => exact ht

/-- A request that fits goes on to fit. -/
theorem Move.fits {t t' : Turn} (h : Move t t') {e : Errand} (he : e.Fits t.state) :
    e.Fits t'.state := by
  have hid : ∀ id, t.state.sessionId = some id → t'.state.sessionId = some id :=
    fun _ => h.sessionId
  have hrest : t'.state.clientId = t.state.clientId ∧
      t'.state.commandResponse = t.state.commandResponse ∧
      t'.state.completeIndex = t.state.completeIndex := by
    cases h with
    | schedule => simp only [schedule_state, and_self]
    | become status => simp only [become_state, SessionState.moveTo]; split <;> simp
    | number => simp only [Turn.number, SessionState.assign]; split <;> simp
    | _ => exact ⟨rfl, rfl, rfl⟩
  obtain ⟨hc, hr, hi⟩ := hrest
  cases e with
  | register attempt r => simp only [Errand.Fits, hc] at he ⊢; exact he
  | keepAlive r => exact ⟨hid _ he.1, hr ▸ he.2.1, hi ▸ he.2.2⟩
  | unregister r => exact hid _ he

/-- **The requests of a turn tell of the session what its state says at the end.** -/
theorem handle_fits (t : Turn) (strategy : Strategy) (i : Input)
    (ht : ∀ e ∈ t.errands, e.Fits t.state) :
    ∀ e ∈ (t.handle strategy i).errands, e.Fits (t.handle strategy i).state := by
  refine (t.handle_moves strategy i).keeps (P := fun t => ∀ e ∈ t.errands, e.Fits t.state)
    (fun t t' hm ht e he => ?_) ht
  have hold := fun e he => hm.fits (ht e he)
  cases hm with
  | @ask e' hfit =>
    rcases List.mem_append.1 (act_errands t _ ▸ he) with he | he
    · exact ht e he
    · simp only [Action.errand?, Option.toList_some, List.mem_singleton] at he
      subst he; exact hfit
  | tell hn => rw [act_errands, hn] at he; exact ht e (by simpa using he)
  | schedule => rw [schedule_errands] at he; exact hold e he
  | _ => exact hold e he

theorem handle_sessionId (t : Turn) (strategy : Strategy) (i : Input) {id : UInt64}
    (ht : t.state.sessionId = some id) : (t.handle strategy i).state.sessionId = some id :=
  (t.handle_moves strategy i).keeps (P := fun t => t.state.sessionId = some id)
    (fun _ _ hm => hm.sessionId) ht

/-! ## Timers and slots -/

/-- Every timer in a slot is among `pool`, or has been set in the turn. -/
def Tracked (pool : List Armed) (t : Turn) : Prop :=
  ∀ slot id, t.session.timer slot = some id →
    ∃ a ∈ pool ++ t.armed, a.id = id ∧ a.purpose.slot = slot

section
variable {pool : List Armed} {t t' : Turn}

theorem Move.tracked (hm : Move t t') (ht : t.Tracked pool) : t'.Tracked pool := by
  intro slot id h
  cases hm with
  | ask => simpa [Action.armed?] using ht slot id h
  | tell _ hn => simpa [hn] using ht slot id h
  | schedule purpose delay =>
    rw [schedule_session, schedule_armed] at *
    by_cases hs : slot = purpose.slot
    · subst hs
      have : t.session.timersSet + 1 = id := by
        cases purpose <;> exact Option.some.inj h
      exact ⟨{ id := t.session.timersSet + 1, purpose }, by simp, this, rfl⟩
    · have hkeep : t.session.timer slot = some id := by
        rw [← h]
        cases slot <;> cases hp : purpose.slot <;> first | rfl | exact absurd hp.symm hs
      obtain ⟨a, ha, hrest⟩ := ht slot id hkeep
      exact ⟨a, by rw [← List.append_assoc]; exact List.mem_append_left _ ha, hrest⟩
  | empty emptied =>
    by_cases hs : slot = emptied
    · subst hs; simp at h
    · simp only [update_session, Session.timer_setTimer_of_ne _ _ hs] at h
      exact ht slot id h
  | note hf => exact ht slot id (by rw [← hf]; exact h)
  | _ => exact ht slot id h

theorem Moves.tracked (h : Moves t t') (ht : t.Tracked pool) : t'.Tracked pool :=
  h.keeps (P := Tracked pool) (fun _ _ => Move.tracked) ht

/-- **Every timer in a slot has been set for the purpose of that slot.** -/
theorem handle_tracked (strategy : Strategy) (i : Input) (ht : t.Tracked pool) :
    (t.handle strategy i).Tracked pool :=
  (t.handle_moves strategy i).tracked ht

/-- The timers that have been set since `before` are numbered from there on. -/
structure Counts (before : Nat) (t : Turn) : Prop where
  le : before ≤ t.session.timersSet
  armed : ∀ a ∈ t.armed, before < a.id ∧ a.id ≤ t.session.timersSet

theorem Move.counts {before : Nat} (hm : Move t t') (ht : t.Counts before) : t'.Counts before := by
  obtain ⟨hle, harmed⟩ := ht
  cases hm with
  | ask => exact ⟨hle, by simpa [Action.armed?] using harmed⟩
  | tell _ hn => exact ⟨hle, by simpa [hn] using harmed⟩
  | schedule purpose delay =>
    refine ⟨?_, fun a ha => ?_⟩ <;> rw [schedule_session]
    · exact Nat.le_succ_of_le hle
    · rw [schedule_armed] at ha
      rcases List.mem_append.1 ha with ha | ha
      · exact ⟨(harmed a ha).1, Nat.le_succ_of_le (harmed a ha).2⟩
      · rw [List.mem_singleton.1 ha]
        exact ⟨Nat.lt_succ_of_le hle, Nat.le_refl _⟩
  | empty slot => cases slot <;> exact ⟨hle, harmed⟩
  | note _ hn => exact ⟨by rw [update_session, hn]; exact hle, by rw [update_session, hn]; exact harmed⟩
  | _ => exact ⟨hle, harmed⟩

/-- **Timers are numbered one after another.** -/
theorem handle_counts (t : Turn) (strategy : Strategy) (i : Input) (ha : t.armed = []) :
    (t.handle strategy i).Counts t.session.timersSet := by
  refine (t.handle_moves strategy i).keeps (P := Counts t.session.timersSet)
    (fun _ _ => Move.counts) ⟨Nat.le_refl _, ?_⟩
  rw [ha]
  nofun

/-- **A timer that has gone off is in no slot any more.** -/
theorem onTimer_tracked {a : Armed} (ht : t.Tracked (a :: pool)) :
    (t.onTimer a.id a.purpose).Tracked pool := by
  obtain ⟨go, hgo, he⟩ := t.onTimer_eq_fired a.id a.purpose
  have hrest : ∀ slot id, t.session.timer slot = some id → ¬(slot = a.purpose.slot ∧ id = a.id) →
      ∃ b ∈ pool ++ t.armed, b.id = id ∧ b.purpose.slot = slot := by
    intro slot id h hne
    obtain ⟨b, hb, hid, hslot⟩ := ht slot id h
    rcases List.mem_cons.1 hb with rfl | hb
    · exact absurd ⟨hslot.symm, hid.symm⟩ hne
    · exact ⟨b, hb, hid, hslot⟩
  rw [he]
  unfold fired
  split
  · refine (hgo _).tracked fun slot id h => ?_
    by_cases hs : slot = a.purpose.slot
    · subst hs; simp at h
    · simp only [update_session, Session.timer_setTimer_of_ne _ _ hs] at h
      exact hrest slot id h fun hc => hs hc.1
  · next hne =>
    refine fun slot id h => hrest slot id h ?_
    rintro ⟨rfl, rfl⟩
    exact hne h

end

end Turn

end ClusterSession
