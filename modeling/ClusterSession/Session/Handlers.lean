/-
  ClusterSession: the task that owns one session — what it does.

  * `Turn.register`, `Turn.keepAlive`, `Turn.unregister`: send a request.
  * `Turn.onOpen`, `Turn.onClose`: commands.
  * `Turn.onRegistered`, `Turn.onKeptAlive`, `Turn.onUnregistered`,
    `Turn.onTimer`: events.
  * `Turn.handle`: any input.

  A failed registration is a matter for the strategy.  A failed heartbeat, or a
  failed attempt to end the session, never reaches callers: an unknown session
  has expired; otherwise, if a leader was known, it is forgotten and the request
  goes out again at once, and if not, the session is unstable and the request
  goes out again one interval later.
-/
import ClusterSession.Session.Basic

namespace ClusterSession

/-- How the outcome of a heartbeat, or of the end of the session, is taken. -/
inductive Outcome where
  | ok
  | unknownSession
  | failed
deriving DecidableEq, Repr

/-- How an answer, or the lack of one, is taken. -/
def Outcome.of (result : Except ConnectionError Verdict) : Outcome :=
  match result with
  | .error _ => .failed
  | .ok v =>
    if v.isOk then .ok
    else if v.error = some .unknownSession then .unknownSession
    else .failed

/-- The number of the attempt after attempt `n`; the last number is its own successor. -/
def nextAttempt (n : UInt32) : UInt32 :=
  if n = UInt32.ofNat (UInt32.size - 1) then n else n + 1

namespace Turn

/-! ## Requests -/

/-- Sends the attempt of that number to register. -/
def register (attempt : UInt32) (t : Turn) : Turn :=
  (t.update fun s => { s with registering := true }).act
    (.request (.register attempt { client := t.state.clientId }))

def keepAlive (t : Turn) : Turn :=
  match t.state.sessionId with
  | none => t
  | some session =>
    t.act (.request (.keepAlive
      { session, commandSequence := t.state.commandResponse, eventIndex := t.state.completeIndex }))

/-- Sets the timer for the next heartbeat. -/
def scheduleKeepAlive (t : Turn) : Turn :=
  t.schedule .keepAlive .keepAlive t.session.interval

/-- Asks the cluster to end the session. -/
def unregister (t : Turn) : Turn :=
  let t := (t.cancel .keepAlive).cancel .unregister
  match t.state.sessionId with
  | none => t
  | some session => t.act (.request (.unregister { session }))

/-! ## Commands -/

def onOpen (waiter : Waiter) (t : Turn) : Turn :=
  match t.state.status with
  | some .expired => t.resolve waiter (.error .sessionExpired)
  | some .closed => t.resolve waiter (.error .sessionClosed)
  | some .opened | some .unstable =>
    t.resolve waiter (if t.session.closing then .error .sessionClosed else .ok ())
  | none =>
    if t.session.closing then t.resolve waiter (.error .sessionClosed)
    else
      let t := t.update fun s => { s with openWaiters := s.openWaiters ++ [waiter] }
      if !t.session.registering && t.session.registerTimer = none then t.register 1 else t

def onClose (waiter : Waiter) (t : Turn) : Turn :=
  if t.state.isEnded then t.resolve waiter (.ok ())
  else
    let t := t.update fun s => { s with closeWaiters := s.closeWaiters ++ [waiter] }
    if t.session.closing then t
    else
      let t := (t.update fun s => { s with closing := true }).cancel .keepAlive
      if t.state.sessionId.isSome then t.unregister
      else
        let t := t.failOpen .sessionClosed
        if t.session.registering then t
        else ((t.cancel .register).become .closed).completeClose

/-! ## Outcomes of attempts to register -/

/-- Takes note of a session that has been registered. -/
def accept (r : RegisterResponse) (t : Turn) : Turn :=
  let t := t.update fun s => { s with interval := (Duration.ofMillis r.timeout.toNat).half }
  ((t.follow r.leader r.members).number r.session).become .opened

def onAccepted (r : RegisterResponse) (t : Turn) : Turn :=
  let t := t.accept r
  if t.session.closing then t.unregister
  else t.completeOpen.scheduleKeepAlive

/-- Asks the strategy about a failed attempt. -/
def consult (strategy : Strategy) (a : Attempt) (t : Turn) : Decision × Turn :=
  let decision := strategy.decide t.session.consultations a
  (decision,
    (t.update fun s => { s with consultations := s.consultations + 1 }).act (.consult a decision))

def onRefused (strategy : Strategy) (a : Attempt) (t : Turn) : Turn :=
  if t.session.closing then (t.become .closed).completeClose
  else
    let next := nextAttempt a.number
    let (decision, t) := t.consult strategy a
    match decision with
    | .now => t.register next
    | .after delay => t.schedule .register (.register next) delay
    | .fail error => t.failOpen (error.getD .gaveUp)

/-- Why an attempt has not registered a session, unless it has.  A session without a timeout is
    none. -/
def refusal? (result : Except ConnectionError RegisterResponse) :
    Except AttemptFailure RegisterResponse :=
  match result with
  | .error e => .error (.connection e)
  | .ok r =>
    if r.isOk then if 0 < r.timeout then .ok r else .error (.rejected none)
    else .error (.rejected r.error)

/-- An attempt to register has an outcome. -/
def onRegistered (strategy : Strategy) (attempt : UInt32)
    (result : Except ConnectionError RegisterResponse) (t : Turn) : Turn :=
  let t := t.update fun s => { s with registering := false }
  match refusal? result with
  | .ok r => t.onAccepted r
  | .error failure => t.onRefused strategy { number := attempt, failure }

/-! ## Outcomes of heartbeats -/

/-- The cluster has renewed the session. -/
def onRenewed (r : KeepAliveResponse) (t : Turn) : Turn :=
  ((t.follow r.leader r.members).become .opened).scheduleKeepAlive

def cancelAll (t : Turn) : Turn :=
  ((t.cancel .keepAlive).cancel .unregister).cancel .register

def onHeartbeatFailed (t : Turn) : Turn :=
  if t.selector.leader.isSome then t.forgetLeader.keepAlive
  else (t.become .unstable).scheduleKeepAlive

def onKeptAlive (result : Except ConnectionError KeepAliveResponse) (t : Turn) : Turn :=
  if t.session.closing || !t.state.isLive then t
  else match result, Outcome.of (result.map (·.toVerdict)) with
    | .ok r, .ok => t.onRenewed r
    | _, .unknownSession => (t.become .expired).cancelAll
    | _, _ => t.onHeartbeatFailed

/-! ## Outcomes of the end -/

def finishClose (status : SessionStatus) (t : Turn) : Turn :=
  ((t.become status).cancelAll).completeClose

def onUnregisterFailed (t : Turn) : Turn :=
  if t.selector.leader.isSome then t.forgetLeader.unregister
  else (t.become .unstable).schedule .unregister .unregister t.session.interval

/-- The end of the session has an outcome. -/
def onUnregistered (result : Except ConnectionError UnregisterResponse) (t : Turn) : Turn :=
  if t.state.isEnded then t
  else match Outcome.of (result.map (·.toVerdict)) with
    | .ok => t.finishClose .closed
    | .unknownSession => t.finishClose .expired
    | .failed => t.onUnregisterFailed

/-! ## Timers -/

/-- A timer has gone off: it is taken out of its slot, and `go` runs.  A timer that is not in
    the slot has been cancelled or replaced. -/
def fired (slot : Slot) (id : Nat) (go : Turn → Turn) (t : Turn) : Turn :=
  if t.session.timer slot = some id then go (t.update (·.setTimer slot none)) else t

def onTimer (id : Nat) (purpose : Purpose) (t : Turn) : Turn :=
  match purpose with
  | .keepAlive => t.fired .keepAlive id fun t => if t.session.closing then t else t.keepAlive
  | .unregister => t.fired .unregister id unregister
  | .register attempt =>
    t.fired .register id fun t => if t.session.closing then t else t.register attempt

/-! ## Any input -/

def onCommand (c : Command) (t : Turn) : Turn :=
  match c with
  | .opening waiter => t.onOpen waiter
  | .closing waiter => t.onClose waiter

def onEvent (strategy : Strategy) (e : Event) (t : Turn) : Turn :=
  match e with
  | .timer id purpose => t.onTimer id purpose
  | .registered attempt result => t.onRegistered strategy attempt result
  | .keptAlive result => t.onKeptAlive result
  | .unregistered result => t.onUnregistered result

def handle (strategy : Strategy) (i : Input) (t : Turn) : Turn :=
  match i with
  | .command c => t.onCommand c
  | .event e => t.onEvent strategy e

end Turn

/-- What the task does with an input: the task, the state and the selector afterwards, and its
    actions in order. -/
def Session.step (strategy : Strategy) (session : Session) (state : SessionState)
    (selector : Selector) (i : Input) : Turn :=
  Turn.handle strategy i { session, state, selector, actions := [] }

end ClusterSession
