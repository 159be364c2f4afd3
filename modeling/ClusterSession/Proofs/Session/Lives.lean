/-
  ClusterSession: the life of a session task.

  A task lives among its callers, the requests that it has sent, the timers that
  it has set, and others who use its selector and its state.  Whatever can
  happen may happen at any time: nothing is assumed of the order in which
  requests are answered, timers go off and callers speak.

  * `Life`: the task with all that it waits for, and all that it has sent.
  * `Happening`: what can happen; `Life.step` is what comes of it.
  * `Life.run`: one happening after another, from `Life.born`.
  * `run_of_step`: what every happening keeps holds in every life.
  * `happen_cases`: in a happening, the task takes in an input that it is offered,
    or nothing happens to it.
-/
import ClusterSession.Proofs.Session.Turns

namespace ClusterSession

/-- A request that was sent, and the number of the happening in which it was. -/
structure Sent where
  time : Nat
  errand : Errand
deriving DecidableEq, Repr

/-- The call of a request. -/
def Sent.method (x : Sent) : Method := x.errand.method

/-- A session task among those with whom it deals. -/
structure Life where
  session : Session
  state : SessionState
  selector : Selector
  /-- Commands that the task has not taken in. -/
  commands : List Command
  /-- Number of commands that callers have given. -/
  asked : Nat
  /-- Number of handles that callers hold. -/
  handles : Nat
  /-- The task has noticed that no handle is left. -/
  detached : Bool
  stopped : Bool
  /-- All requests so far. -/
  sent : List Sent
  /-- The requests whose outcome the task has not taken in. -/
  outstanding : List Sent
  /-- The timers that were set, and whose going off the task has not taken in.  One that was
      cancelled may have gone off before, and its event may be in the queue. -/
  timers : List Armed
  /-- Number of happenings so far. -/
  time : Nat

/-- What can happen.  A number that is too high means nothing. -/
inductive Happening where
  /-- A caller wants the session open. -/
  | opening
  /-- A caller wants the session closed. -/
  | closing
  | clone
  | drop
  /-- The task takes in the first command. -/
  | command
  /-- The task takes in the outcome of an outstanding request. -/
  | outcome (i : Nat) (result : Except ConnectionError Response)
  /-- The task takes in that a timer has gone off. -/
  | timer (i : Nat)
  /-- The task notices that no handle is left. -/
  | detach
  /-- The task stops. -/
  | stop
  /-- Others change the selector. -/
  | select (selector : Selector)
  /-- The application raises a counter of the state. -/
  | raise (counter : Counter) (n : UInt64)
  /-- The application allots a command number. -/
  | nextCommand

namespace Life

/-- A task that has just been spawned, on a state that was never registered. -/
def born (clientId : String) (selector : Selector) : Life :=
  { session := .initial, state := .fresh clientId, selector, commands := [], asked := 0
    handles := 1, detached := false, stopped := false, sent := [], outstanding := []
    timers := [], time := 0 }

/-- A caller gives a command. -/
def ask (command : Waiter → Command) (l : Life) : Life :=
  if l.handles = 0 then l
  else { l with commands := l.commands ++ [command l.asked], asked := l.asked + 1 }

/-- The task takes in an input. -/
def take (strategy : Strategy) (i : Input) (l : Life) : Life :=
  let t := l.session.step strategy l.state l.selector i
  let news := t.errands.map ({ time := l.time, errand := · })
  { l with
    session := t.session, state := t.state, selector := t.selector
    sent := l.sent ++ news
    outstanding := l.outstanding ++ news
    timers := l.timers ++ t.armed }

/-- The task takes in the first command, unless it has noticed that no handle is left. -/
def takeCommand (strategy : Strategy) (l : Life) : Life :=
  match l.detached, l.commands with
  | false, c :: rest => { l with commands := rest }.take strategy (.command c)
  | _, _ => l

/-- The task takes in the outcome of an outstanding request. -/
def takeOutcome (strategy : Strategy) (i : Nat) (result : Except ConnectionError Response)
    (l : Life) : Life :=
  match l.outstanding[i]? with
  | some x =>
    { l with outstanding := l.outstanding.eraseIdx i }.take strategy
      (.event (x.errand.outcome result))
  | none => l

/-- The task takes in that a timer has gone off. -/
def takeTimer (strategy : Strategy) (i : Nat) (l : Life) : Life :=
  match l.timers[i]? with
  | some a =>
    { l with timers := l.timers.eraseIdx i }.take strategy (.event (.timer a.id a.purpose))
  | none => l

/-- What comes of a happening.  A task that has stopped takes in nothing. -/
def happen (strategy : Strategy) (l : Life) : Happening → Life
  | .opening => l.ask .opening
  | .closing => l.ask .closing
  | .clone => if l.handles = 0 then l else { l with handles := l.handles + 1 }
  | .drop => { l with handles := l.handles - 1 }
  | .command => if l.stopped then l else l.takeCommand strategy
  | .outcome i result => if l.stopped then l else l.takeOutcome strategy i result
  | .timer i => if l.stopped then l else l.takeTimer strategy i
  | .detach => if l.handles = 0 ∧ l.commands = [] then { l with detached := true } else l
  | .stop => if l.detached && l.session.isIdle then { l with stopped := true } else l
  | .select selector => { l with selector }
  | .raise counter n => { l with state := l.state.raise n counter }
  | .nextCommand => { l with state := l.state.nextCommand.2 }

/-- A happening. -/
def step (strategy : Strategy) (l : Life) (h : Happening) : Life :=
  { l.happen strategy h with time := l.time + 1 }

/-- One happening after another. -/
def run (strategy : Strategy) (l : Life) (hs : List Happening) : Life :=
  hs.foldl (step strategy) l

section
variable {strategy : Strategy}

theorem run_append (l : Life) (hs hs' : List Happening) :
    l.run strategy (hs ++ hs') = (l.run strategy hs).run strategy hs' :=
  List.foldl_append

theorem run_concat (l : Life) (hs : List Happening) (h : Happening) :
    l.run strategy (hs ++ [h]) = (l.run strategy hs).step strategy h := by
  rw [run_append]; rfl

theorem run_time (l : Life) (hs : List Happening) :
    (l.run strategy hs).time = l.time + hs.length := by
  induction hs generalizing l with
  | nil => rfl
  | cons h rest ih =>
    refine (ih _).trans ?_
    simp only [step, List.length_cons]
    omega

/-- **What every happening keeps holds in every life.** -/
theorem run_of_step {P : Life → Prop} (hP : ∀ l h, P l → P (l.step strategy h)) {l : Life}
    (hl : P l) (hs : List Happening) : P (l.run strategy hs) := by
  induction hs generalizing l with
  | nil => exact hl
  | cons h rest ih => exact ih (hP l h hl)

/-! ## What a happening can be -/

/-- An input that the task can take in, and the life without it. -/
inductive Offers (l : Life) : Input → Life → Prop
  | command {c rest} : l.detached = false → l.commands = c :: rest →
      Offers l (.command c) { l with commands := rest }
  | outcome {i x} (result) : l.outstanding[i]? = some x →
      Offers l (.event (x.errand.outcome result))
        { l with outstanding := l.outstanding.eraseIdx i }
  | timer {i a} : l.timers[i]? = some a →
      Offers l (.event (.timer a.id a.purpose)) { l with timers := l.timers.eraseIdx i }

/-- Two lives differ in nothing that has to do with the task. -/
structure Alike (l l' : Life) : Prop where
  session : l'.session = l.session
  status : l'.state.status = l.state.status
  sessionId : l'.state.sessionId = l.state.sessionId
  sent : l'.sent = l.sent
  outstanding : l'.outstanding = l.outstanding
  timers : l'.timers = l.timers

theorem Alike.refl (l : Life) : Alike l l := ⟨rfl, rfl, rfl, rfl, rfl, rfl⟩

/-- **In a happening, the task takes in an input, or nothing happens to it.** -/
theorem happen_cases (strategy : Strategy) (l : Life) (h : Happening) :
    (∃ i l', l.stopped = false ∧ l.Offers i l' ∧ l.happen strategy h = l'.take strategy i) ∨
      (Alike l (l.happen strategy h) ∧
        ((∀ s, h ≠ .select s) → (l.happen strategy h).selector = l.selector)) := by
  cases h with
  | opening | closing =>
    right
    simp only [happen, ask]
    split <;> exact ⟨⟨rfl, rfl, rfl, rfl, rfl, rfl⟩, fun _ => rfl⟩
  | clone | detach | stop =>
    right
    simp only [happen]
    split <;> exact ⟨⟨rfl, rfl, rfl, rfl, rfl, rfl⟩, fun _ => rfl⟩
  | drop | nextCommand => exact .inr ⟨⟨rfl, rfl, rfl, rfl, rfl, rfl⟩, fun _ => rfl⟩
  | raise counter n =>
    refine .inr ⟨⟨rfl, ?_, ?_, rfl, rfl, rfl⟩, fun _ => rfl⟩ <;> cases counter <;> rfl
  | select s => exact .inr ⟨⟨rfl, rfl, rfl, rfl, rfl, rfl⟩, fun hs => absurd rfl (hs s)⟩
  | command =>
    simp only [happen]
    split
    · exact .inr ⟨.refl l, fun _ => rfl⟩
    · next hstop =>
      unfold takeCommand
      split
      · next hd hc => exact .inl ⟨_, _, by simpa using hstop, .command hd hc, rfl⟩
      · exact .inr ⟨.refl l, fun _ => rfl⟩
  | outcome i result =>
    simp only [happen]
    split
    · exact .inr ⟨.refl l, fun _ => rfl⟩
    · next hstop =>
      unfold takeOutcome
      split
      · next hx => exact .inl ⟨_, _, by simpa using hstop, .outcome result hx, rfl⟩
      · exact .inr ⟨.refl l, fun _ => rfl⟩
  | timer i =>
    simp only [happen]
    split
    · exact .inr ⟨.refl l, fun _ => rfl⟩
    · next hstop =>
      unfold takeTimer
      split
      · next ha => exact .inl ⟨_, _, by simpa using hstop, .timer ha, rfl⟩
      · exact .inr ⟨.refl l, fun _ => rfl⟩

end

end Life

end ClusterSession
