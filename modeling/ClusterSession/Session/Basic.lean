/-
  ClusterSession: the task that owns one session — its data.

  The task takes in commands of its callers and events of its own errands and
  timers, one at a time.  What it does in return is a list of actions.

  * `Session`: what the task remembers between two inputs.
  * `Input`: commands (`open`, `close`) and events (outcomes of requests, timers
    that went off).
  * `Action`: requests to send, timers to set or to cancel, callers to answer.
  * `Turn`: the task, what it shares with others, and the actions so far, while
    one input is handled.
-/
import ClusterSession.Call
import ClusterSession.Selector
import ClusterSession.State
import ClusterSession.Strategy

namespace ClusterSession

/-- A caller that waits for an answer. -/
abbrev Waiter : Type := Nat

/-! ## Errands -/

/-- A request with what it is for. -/
inductive Errand where
  | register (attempt : UInt32) (request : RegisterRequest)
  | keepAlive (request : KeepAliveRequest)
  | unregister (request : UnregisterRequest)
deriving DecidableEq, Repr

def Errand.request : Errand → Request
  | register _ r => .register r
  | keepAlive r => .keepAlive r
  | unregister r => .unregister r

/-- The error of a request that was not answered within `limit`. -/
def lateAnswer (r : Request) (limit : Duration) : ConnectionError :=
  .timeout (r.method.name ++ " after " ++ toString limit.millis ++ "ms")

/-! ## Inputs -/

/-- What a timer is for. -/
inductive Purpose where
  | keepAlive
  | unregister
  | register (attempt : UInt32)
deriving DecidableEq, Repr

/-- What callers ask for. -/
inductive Command where
  | opening (waiter : Waiter)
  | closing (waiter : Waiter)
deriving DecidableEq, Repr

/-- What happens to errands and timers. -/
inductive Event where
  | timer (id : Nat) (purpose : Purpose)
  | registered (attempt : UInt32) (result : Except ConnectionError RegisterResponse)
  | keptAlive (result : Except ConnectionError KeepAliveResponse)
  | unregistered (result : Except ConnectionError UnregisterResponse)

/-- The event that an errand ends with.  A response to another call is an error. -/
def Errand.outcome (e : Errand) (result : Except ConnectionError Response) : Event :=
  match e with
  | register attempt _ => .registered attempt (result.bind Response.toRegister)
  | keepAlive _ => .keptAlive (result.bind Response.toKeepAlive)
  | unregister _ => .unregistered (result.bind Response.toUnregister)

/-- What the task takes in. -/
inductive Input where
  | command (c : Command)
  | event (e : Event)

/-! ## Actions -/

/-- What the task does. -/
inductive Action where
  /-- Sends a request; its outcome will be an event. -/
  | request (e : Errand)
  | arm (id : Nat) (purpose : Purpose) (delay : Duration)
  | disarm (id : Nat)
  | resolve (waiter : Waiter) (result : Except SessionError Unit)
  /-- Has asked the strategy about a failed attempt. -/
  | consult (attempt : Attempt) (decision : Decision)

/-! ## The task -/

/-- What the task remembers between two inputs. -/
structure Session where
  /-- Half the timeout of the session. -/
  interval : Duration
  /-- A request to register has no outcome yet. -/
  registering : Bool
  /-- The end of the session has been asked for. -/
  closing : Bool
  openWaiters : List Waiter
  closeWaiters : List Waiter
  keepAliveTimer : Option Nat
  unregisterTimer : Option Nat
  registerTimer : Option Nat
  /-- Number of timers set so far; the last one has this number. -/
  timersSet : Nat
  /-- Number of times the strategy has been asked. -/
  consultations : Nat
deriving DecidableEq, Repr

/-- A task that has taken in nothing yet. -/
def Session.initial : Session :=
  { interval := { nanos := 0 }, registering := false, closing := false
    openWaiters := [], closeWaiters := []
    keepAliveTimer := none, unregisterTimer := none, registerTimer := none
    timersSet := 0, consultations := 0 }

/-- The three timers of the task. -/
inductive Slot where
  | keepAlive
  | unregister
  | register
deriving DecidableEq, Repr

namespace Session

/-- The number of the timer in a slot, if one is set. -/
def timer (s : Session) : Slot → Option Nat
  | .keepAlive => s.keepAliveTimer
  | .unregister => s.unregisterTimer
  | .register => s.registerTimer

/-- The task with another timer, or none, in a slot. -/
def setTimer (s : Session) (slot : Slot) (id : Option Nat) : Session :=
  match slot with
  | .keepAlive => { s with keepAliveTimer := id }
  | .unregister => { s with unregisterTimer := id }
  | .register => { s with registerTimer := id }

/-- Whether nobody waits for an answer. -/
def isIdle (s : Session) : Bool :=
  s.openWaiters = [] && s.closeWaiters = []

end Session

/-! ## Turns -/

/-- The task, the state and the selector that it shares with others, and the actions so far. -/
structure Turn where
  session : Session
  state : SessionState
  selector : Selector
  actions : List Action

namespace Turn

def act (t : Turn) (a : Action) : Turn :=
  { t with actions := t.actions ++ [a] }

def update (t : Turn) (f : Session → Session) : Turn :=
  { t with session := f t.session }

def cancel (slot : Slot) (t : Turn) : Turn :=
  match t.session.timer slot with
  | some id => (t.act (.disarm id)).update (·.setTimer slot none)
  | none => t

/-- Sets a timer in a slot; the one that was there is cancelled. -/
def schedule (slot : Slot) (purpose : Purpose) (delay : Duration) (t : Turn) : Turn :=
  let id := t.session.timersSet + 1
  let t := t.act (.arm id purpose delay)
  let t := t.cancel slot
  t.update fun s => { s.setTimer slot (some id) with timersSet := id }

/-- Moves the status, if the lifecycle has such a step. -/
def become (status : SessionStatus) (t : Turn) : Turn :=
  { t with state := (t.state.moveTo status).2 }

/-- Fixes the number of the session, unless it is fixed. -/
def number (id : UInt64) (t : Turn) : Turn :=
  { t with state := (t.state.assign id).2 }

/-- Takes over a report of the leader and the members. -/
def follow (leader : Option Address) (members : List Address) (t : Turn) : Turn :=
  { t with selector := t.selector.reset leader members }

def forgetLeader (t : Turn) : Turn :=
  { t with selector := t.selector.clearLeader }

def resolve (waiter : Waiter) (result : Except SessionError Unit) (t : Turn) : Turn :=
  t.act (.resolve waiter result)

/-- Answers every one of `waiters` alike. -/
def resolveAll (waiters : List Waiter) (result : Except SessionError Unit) (t : Turn) : Turn :=
  waiters.foldl (fun t w => t.resolve w result) t

/-- Fails every one of `waiters`: the first with `e` itself, the others with its echo. -/
def failAll (waiters : List Waiter) (e : SessionError) (t : Turn) : Turn :=
  match waiters with
  | [] => t
  | first :: rest => (t.resolveAll rest (.error e.echo)).resolve first (.error e)

/-- Tells those who wait for the session to open that it is open. -/
def completeOpen (t : Turn) : Turn :=
  (t.resolveAll t.session.openWaiters (.ok ())).update fun s => { s with openWaiters := [] }

/-- Tells those who wait for the session to close that it is closed. -/
def completeClose (t : Turn) : Turn :=
  (t.resolveAll t.session.closeWaiters (.ok ())).update fun s => { s with closeWaiters := [] }

/-- Fails those who wait for the session to open. -/
def failOpen (e : SessionError) (t : Turn) : Turn :=
  (t.failAll t.session.openWaiters e).update fun s => { s with openWaiters := [] }

end Turn

end ClusterSession
