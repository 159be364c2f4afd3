/-
  ClusterSession: sessions and members on a virtual clock — what runs.

  * `World.runTask`: a session task takes in all waiting commands before any
    waiting event; it stops once no handle is left and nobody waits.
  * `World.runTimer` and `World.runSending`: a timer, and a request under way.
    If an answer and the end of the wait fall together, the answer counts.
  * `World.settle`: runs whatever is ready.
  * `World.advance`: lets time pass, from one alarm to the next.
-/
import ClusterSession.Simulation.World

namespace ClusterSession.Simulation

namespace World

/-! ## Session tasks -/

/-- Cancels the timer of that number of a session task. -/
def disarm (m id : Nat) (w : World) : World :=
  let j := w.jobs.findIdx? fun
    | some (.timer t) => t.manager = m && t.id = id
    | _ => false
  match j with
  | some j => w.close j
  | none => w

/-- Does what a session task wants done. -/
def perform (m : Nat) (limit : Duration) (w : World) : Action → World
  | .request e =>
    (w.spawn (.sending
      { owner := .manager m e, request := e.request, limit := some limit, deadline := none
        memberDeadline := none, waiting := .fresh, cancelled := false })).2
  | .arm id purpose delay =>
    (w.spawn (.timer { manager := m, id, purpose, ticks := delay.ticks, due := none })).2
  | .disarm id => w.disarm m id
  | .resolve waiter result => w.conclude waiter (.command result)
  | .consult attempt decision =>
    if (w.managers[m]?).any (·.recorded) then
      { w with consultations :=
          w.consultations ++ [{ time := w.now, manager := m, attempt, decision }] }
    else w

def feed (m : Nat) (i : Input) (w : World) : World :=
  match w.managers[m]? with
  | none => w
  | some manager =>
    match w.states[manager.state]? with
    | none => w
    | some state =>
      let t := manager.session.step manager.strategy state w.selector i
      let w := { w with selector := t.selector }
      let w := w.updateState manager.state fun _ => t.state
      let w := w.updateManager m fun x => { x with session := t.session }
      t.actions.foldl (·.perform m manager.limit ·) w

/-- A session task stops, and its timers with it. -/
def stop (m : Nat) (w : World) : World :=
  match w.managers[m]? with
  | none => w
  | some manager =>
    let s := manager.session
    let ids := [s.keepAliveTimer, s.unregisterTimer, s.registerTimer].filterMap id
    let w := ids.foldl (fun w i => w.disarm m i) w
    (w.updateManager m fun x => { x with stopped := true, events := [] }).close manager.job

/-- A session task runs until it has nothing to take in. -/
def runTask (m : Nat) : (fuel : Nat) → World → World
  | 0, w => w
  | fuel + 1, w =>
    match w.managers[m]? with
    | none => w
    | some manager =>
      if manager.detached && manager.session.isIdle then w.stop m
      else match manager.detached, manager.commands, manager.events with
        | false, c :: rest, _ =>
          let w := w.updateManager m fun x => { x with commands := rest }
          runTask m fuel (w.feed m (.command c))
        | false, [], events =>
          if manager.handles = 0 then
            runTask m fuel (w.updateManager m fun x => { x with detached := true })
          else match events with
            | e :: rest =>
              let w := w.updateManager m fun x => { x with events := rest }
              runTask m fuel (w.feed m (.event e))
            | [] => w
        | true, _, e :: rest =>
          let w := w.updateManager m fun x => { x with events := rest }
          runTask m fuel (w.feed m (.event e))
        | true, _, [] => w

/-! ## Timers -/

/-- A timer starts to run, or goes off. -/
def runTimer (j : Nat) (t : Timer) (w : World) : World :=
  let due := t.due.getD (w.now + t.ticks)
  if due ≤ w.now then (w.close j).post t.manager (.timer t.id t.purpose)
  else if t.due.isSome then w
  else (w.keep j (.timer { t with due := some due })).setAlarm due j

/-! ## Requests under way -/

/-- A request reaches a member: it is answered at once, or waits. -/
def present (j : Nat) (request : Request) (member : Option Address) (w : World) :
    (Waiting ⊕ Except ConnectionError Response) × World :=
  let x := w.exchanges.size
  let arrive (fate : Fate) (w : World) : World :=
    { w with exchanges := w.exchanges.push { time := w.now, request, member, fate } }
  match w.plans with
  | [] => (.inl (.exchange x), arrive .awaited w)
  | .hang :: rest => (.inl (.exchange x), arrive .awaited { w with plans := rest })
  | .answer result delay :: rest =>
    let w := arrive .spent { w with plans := rest }
    if delay = 0 then (.inr result, w)
    else (.inl (.answer (w.now + delay) result), w.setAlarm (w.now + delay) j)

/-- The answer that a request has waited for, if it is there. -/
def answer? (w : World) : Waiting → Option (Except ConnectionError Response)
  | .exchange x =>
    match w.exchanges[x]? with
    | some { fate := .told result, .. } => some result
    | _ => none
  | .answer due result => if due ≤ w.now then some result else none
  | _ => none

/-- Nobody waits for the answer any more. -/
def forsake (waiting : Waiting) (w : World) : World :=
  match waiting with
  | .exchange x =>
    match w.exchanges[x]? with
    | some { fate := .awaited, .. } => w.setFate x .forsaken
    | _ => w
  | _ => w

/-- A request under way goes on as far as it can: with a result, or with what it waits for. -/
abbrev Progressed : Type := (Sending ⊕ Except ConnectionError Response) × World

/-- A request that goes to the members directly. -/
def runDirect (j : Nat) (s : Sending) (w : World) : Progressed :=
  match s.waiting with
  | .fresh =>
    match w.present j s.request none with
    | (.inl waiting, w) => (.inl { s with waiting }, w)
    | (.inr result, w) => (.inr result, w)
  | waiting =>
    match w.answer? waiting with
    | some result => (.inr result, w)
    | none => (.inl s, w)

/-- Takes over what a step of the cluster connection has left. -/
def adopt (r : Routed) (w : World) : World :=
  ({ w with
    cluster := w.cluster.map fun (c : Cluster × Option Nat) => (r.cluster, c.2)
    selector := r.selector }).wakeSome r.woken

/-- What a send through the cluster connection does next, until it has to wait. -/
def follow (j : Nat) : (fuel : Nat) → Sending → Routed → World → Progressed
  | 0, s, _, w => (.inl s, w)
  | fuel + 1, s, r, w =>
    let w := w.adopt r
    let limit := w.cluster.bind fun (c : Cluster × Option Nat) => c.2
    match r.move with
    | .finish result => (.inr result, w)
    | .wait => (.inl { s with waiting := .turn }, w)
    | .dial a =>
      let w := { w with dials := w.dials ++ [(w.now, a)] }
      match w.modeOf a with
      | .hang => (.inl { s with waiting := .dial none }, w)
      | .slow (millis + 1) =>
        let due := w.now + (millis + 1)
        (.inl { s with waiting := .dial (some due) }, w.setAlarm due j)
      | .up | .slow 0 => follow j fuel s (r.cluster.dialed j true r.selector) w
      | .down => follow j fuel s (r.cluster.dialed j false r.selector) w
    | .forward a _ =>
      match w.present j s.request (some a) with
      | (.inr result, w) => follow j fuel s (r.cluster.answered j result r.selector) w
      | (.inl waiting, w) =>
        match limit with
        | none => (.inl { s with waiting }, w)
        | some 0 =>
          follow j fuel s (r.cluster.answered j (.error (noAnswer a 0)) r.selector)
            (w.forsake waiting)
        | some millis =>
          let due := w.now + millis
          (.inl { s with waiting, memberDeadline := some (a, due) }, w.setAlarm due j)

/-- More members than a send can come by before it has to wait. -/
def reach (w : World) (j : Nat) (c : Cluster) : Nat :=
  let left := match c.stage? j with
    | some (.dialing _ rest _) => rest.length
    | _ => 0
  w.selector.candidates.length + left + 4

/-- A request that goes through the cluster connection. -/
def runRouted (j : Nat) (s : Sending) (c : Cluster) (limit : Option Nat) (w : World) :
    Progressed :=
  let go (r : Routed) (w : World) : Progressed :=
    follow j (w.reach j c) s r w
  match s.waiting with
  | .fresh => go (c.start j w.selector) w
  | .turn => go (c.turn j w.selector) w
  | .dial due => if due.any (· ≤ w.now) then go (c.dialed j true w.selector) w else (.inl s, w)
  | waiting =>
    match w.answer? waiting, s.memberDeadline with
    | some result, _ => go (c.answered j result w.selector) w
    | none, some (a, due) =>
      if due ≤ w.now then
        go (c.answered j (.error (noAnswer a (limit.getD 0))) w.selector) (w.forsake waiting)
      else (.inl s, w)
    | none, none => (.inl s, w)

/-- A request under way goes on as far as it can. -/
def goOn (j : Nat) (s : Sending) (w : World) : Progressed :=
  match w.cluster with
  | none => w.runDirect j s
  | some (c, limit) => w.runRouted j s c limit

/-- Nobody waits for a request any more, whatever it waits for. -/
def drop (j : Nat) (s : Sending) (w : World) : World :=
  let w := (w.forsake s.waiting).close j
  match w.cluster, s.waiting with
  | some _, .fresh | none, _ => w
  | some (c, limit), _ =>
    let (c, woken) := c.abandon j
    ({ w with cluster := some (c, limit) }).wakeSome woken

/-- Tells the owner of a request its result. -/
def deliver (owner : Owner) (result : Except ConnectionError Response) (w : World) : World :=
  match owner with
  | .manager m e => w.post m (e.outcome result)
  | .caller c => w.conclude c (.reply result)

/-- A request under way runs: it goes on, ends, or is given up. -/
def runSending (j : Nat) (s : Sending) (w : World) : World :=
  if s.cancelled then w.drop j s
  else
    let first := match s.waiting with
      | .fresh => true
      | _ => false
    match w.goOn j s with
    | (.inr result, w) => (w.close j).deliver s.owner result
    | (.inl s, w) =>
      match s.limit with
      | none => w.keep j (.sending s)
      | some limit =>
        let due := s.deadline.getD (w.now + limit.ticks)
        let s := { s with deadline := some due }
        if due ≤ w.now then
          (w.drop j s).deliver s.owner (.error (lateAnswer s.request limit))
        else
          let w := w.keep j (.sending s)
          if first then w.setAlarm due j else w

/-! ## Running -/

def run (j : Nat) (w : World) : World :=
  match w.job? j with
  | none => w
  | some (.task m) =>
    let fuel := match w.managers[m]? with
      | some x => x.commands.length + x.events.length + 3
      | none => 0
    runTask m fuel w
  | some (.timer t) => w.runTimer j t
  | some (.sending s) => w.runSending j s

/-- Runs at most `fuel` jobs that are ready. -/
def settleWith : (fuel : Nat) → World → World
  | 0, w => w
  | fuel + 1, w =>
    match w.ready with
    | [] => w
    | j :: rest => settleWith fuel ({ w with ready := rest }.run j)

/-- More jobs than run without time passing. -/
def patience : Nat := 1000000

def settle (w : World) : World := settleWith patience w

def nextAlarm (w : World) : Option Nat :=
  (w.alarms.map (·.due)).min?

/-- The alarms of a time go off, in the order in which they were set. -/
def ring (time : Nat) (w : World) : World :=
  let due := w.alarms.filter (·.due ≤ time)
  let w := { w with now := time, alarms := w.alarms.filter (time < ·.due) }
  due.foldl (fun w a => w.wake a.job) w

/-- Lets time pass up to `time`, over at most `fuel` alarms. -/
def advanceTo (time : Nat) : (fuel : Nat) → World → World
  | 0, w => w
  | fuel + 1, w =>
    match w.nextAlarm with
    | some due =>
      if due ≤ time then advanceTo time fuel (w.ring due).settle else { w with now := time }
    | none => { w with now := time }

/-- Lets so many milliseconds pass. -/
def advance (millis : Nat) (w : World) : World :=
  advanceTo (w.now + millis) patience w.settle

end World

end ClusterSession.Simulation
