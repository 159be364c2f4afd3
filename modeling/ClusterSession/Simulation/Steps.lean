/-
  ClusterSession: sessions and members on a virtual clock — what can be done.

  * `Setup`: a session task to start with.
  * `Step`: what an experimenter can do to a world, and `World.doStep` what
    comes back at once.
  * `World.observe`: runs whatever is ready, and tells what has happened since
    the last look.
-/
import ClusterSession.Simulation.Jobs

namespace ClusterSession.Simulation

/-- Which state a session task starts with. -/
inductive StateSource where
  | own (state : SessionState)
  | shared (m : Nat)

/-- A session task to start with. -/
structure Setup where
  limit : Duration
  strategy : Strategy
  recorded : Bool
  state : StateSource

/-- What an experimenter can do. -/
inductive Step where
  | opening (handle : Nat)
  | closing (handle : Nat)
  | send (request : Request)
  /-- Nobody waits for this completion any more. -/
  | abandon (completion : Nat)
  | clone (handle : Nat)
  | drop (handle : Nat)
  | reply (exchange : Nat) (result : Except ConnectionError Response)
  /-- Tells the members how to treat the next requests. -/
  | plan (plans : List Plan)
  | mode (address : Address) (mode : Mode)
  | reset (leader : Option Address) (servers : List Address)
  | clearLeader
  | next
  | rewind
  | raise (handle : Nat) (counter : Counter) (n : UInt64)
  | nextCommand (handle : Nat)
  | advance (millis : Nat)
  | poll
  /-- Does several things before anything runs. -/
  | batch (steps : List Step)

/-- What became of an answer to an exchange. -/
inductive Receipt where
  | delivered
  | late
  | gone
  | unknown
deriving DecidableEq, Repr

/-- What comes back from a step at once. -/
inductive Return where
  | nothing
  | number (n : Nat)
  | address (a : Option Address)
  | receipt (r : Receipt)
  | several (rs : List Return)

namespace World

/-! ## Starting -/

def addManager (setup : Setup) (w : World) : World :=
  let m := w.managers.size
  let (state, w) := match setup.state with
    | .own s => (w.states.size, { w with states := w.states.push s })
    | .shared i => (((w.managers[i]?).map Manager.state).getD 0, w)
  let (job, w) := w.spawn (.task m)
  let seen := ((w.states[state]?).map SessionState.notices).getD 0
  { w with
    managers := w.managers.push
      { session := .initial, state, strategy := setup.strategy, recorded := setup.recorded
        limit := setup.limit, job, commands := [], events := [], handles := 1
        detached := false, stopped := false, seen }
    handles := w.handles.push (some m) }

/-! ## Steps -/

def taskOf (w : World) (handle : Nat) : Option Nat :=
  (w.handles[handle]?).join

/-- Gives a command to the task of a handle; the number of its completion comes back. -/
def submit (handle : Nat) (command : Waiter → Command) (w : World) : Return × World :=
  let c := w.completions
  let w := { w with completions := c + 1 }
  match w.taskOf handle with
  | none => (.number c, w)
  | some m =>
    match w.managers[m]? with
    | none => (.number c, w)
    | some manager =>
      let w := w.updateManager m fun x => { x with commands := x.commands ++ [command c] }
      (.number c, w.wake manager.job)

/-- Sends a request as a caller of its own. -/
def sendAlone (request : Request) (w : World) : Return × World :=
  let c := w.completions
  let (j, w) := w.spawn (.sending
    { owner := .caller c, request, limit := none, deadline := none, memberDeadline := none
      waiting := .fresh, cancelled := false })
  (.number c, { w with completions := c + 1, callers := (c, j) :: w.callers })

/-- Nobody waits for a completion any more; a request of its own is given up. -/
def abandon (c : Nat) (w : World) : World :=
  let w := { w with forgotten := c :: w.forgotten }
  match w.callers.lookup c with
  | none => w
  | some j =>
    match w.job? j with
    | some (.sending s) => (w.keep j (.sending { s with cancelled := true })).wake j
    | _ => w

/-- Makes another handle of the same task. -/
def cloneHandle (handle : Nat) (w : World) : Return × World :=
  let h := w.handles.size
  match w.taskOf handle with
  | none => (.nothing, w)
  | some m =>
    (.number h,
      { w.updateManager m (fun x => { x with handles := x.handles + 1 }) with
        handles := w.handles.push (some m) })

def dropHandle (handle : Nat) (w : World) : World :=
  match w.taskOf handle with
  | none => w
  | some m =>
    let w := { w with handles := w.handles.setIfInBounds handle none }
    let w := w.updateManager m fun x => { x with handles := x.handles - 1 }
    match w.managers[m]? with
    | some manager => if manager.handles = 0 then w.wake manager.job else w
    | none => w

/-- Whether a request under way waits for an exchange. -/
def awaits (x : Nat) : Option Job → Bool
  | some (.sending { waiting := .exchange y, .. }) => x = y
  | _ => false

def reply (x : Nat) (result : Except ConnectionError Response) (w : World) : Receipt × World :=
  match w.exchanges[x]? with
  | none => (.unknown, w)
  | some e =>
    match e.fate with
    | .awaited => (.delivered, (w.setFate x (.told result)).wakeSome (w.jobs.findIdx? (awaits x)))
    | .forsaken => (.late, w.setFate x .spent)
    | .told _ | .spent => (.gone, w)

/-- Does something to the state of the task of a handle. -/
def withState (handle : Nat) (f : SessionState → Return × SessionState) (w : World) :
    Return × World :=
  match (w.taskOf handle).bind fun m => w.managers[m]? with
  | none => (.nothing, w)
  | some manager =>
    match w.states[manager.state]? with
    | none => (.nothing, w)
    | some s =>
      let (r, s) := f s
      (r, w.updateState manager.state fun _ => s)

/-- Does a step that is not made of others. -/
def doOne (step : Step) (w : World) : Return × World :=
  match step with
  | .opening h => w.submit h .opening
  | .closing h => w.submit h .closing
  | .send request => w.sendAlone request
  | .abandon c => (.nothing, w.abandon c)
  | .clone h => w.cloneHandle h
  | .drop h => (.nothing, w.dropHandle h)
  | .reply x result =>
    let (r, w) := w.reply x result
    (.receipt r, w)
  | .plan plans => (.nothing, { w with plans := w.plans ++ plans })
  | .mode a m => (.nothing, { w with modes := (a, m) :: w.modes })
  | .reset leader servers => (.nothing, { w with selector := w.selector.reset leader servers })
  | .clearLeader => (.nothing, { w with selector := w.selector.clearLeader })
  | .next =>
    let (a, s) := w.selector.next
    (.address a, { w with selector := s })
  | .rewind => (.nothing, { w with selector := w.selector.rewind })
  | .raise h counter n => w.withState h fun s => (.nothing, s.raise n counter)
  | .nextCommand h =>
    w.withState h fun s =>
      let (n, s) := s.nextCommand
      (.number n.toNat, s)
  | .advance millis => (.nothing, w.advance millis)
  | .poll => (.nothing, w)
  | .batch _ => (.nothing, w)

mutual

def doStep (step : Step) (w : World) : Return × World :=
  match step with
  | .batch steps =>
    let (rs, w) := doSteps steps w
    (.several rs, w)
  | step => w.doOne step

def doSteps (steps : List Step) (w : World) : List Return × World :=
  match steps with
  | [] => ([], w)
  | step :: rest =>
    let (r, w) := doStep step w
    let (rs, w) := doSteps rest w
    (r :: rs, w)

end

end World

/-! ## Looking -/

/-- Where the link of a cluster connection stands. -/
inductive LinkView where
  | busy
  | linked (address : Option Address)
deriving DecidableEq, Repr

/-- What is seen of a session task. -/
structure ManagerView where
  state : SessionState
  /-- Watchers have been notified since the last look. -/
  changed : Bool

/-- What is seen of a world. -/
structure View where
  time : Nat
  /-- The exchanges that have arrived, from this number on. -/
  firstExchange : Nat
  exchanges : List Exchange
  consultations : List Consultation
  endings : List (Nat × Ending)
  selector : Selector
  managers : List ManagerView
  dials : List (Nat × Address)
  link : Option LinkView

namespace World

/-- Completions that have ended, in order of their numbers. -/
def sortedEndings (w : World) : List (Nat × Ending) :=
  w.endings.mergeSort fun a b => a.1 ≤ b.1

def viewManager (w : World) (m : Manager) : Option ManagerView :=
  (w.states[m.state]?).map fun s => { state := s, changed := s.notices ≠ m.seen }

def view (w : World) : View :=
  { time := w.now
    firstExchange := w.exchangesSeen
    exchanges := w.exchanges.toList.drop w.exchangesSeen
    consultations := w.consultations
    endings := w.sortedEndings
    selector := w.selector
    managers := w.managers.toList.filterMap w.viewManager
    dials := w.dials
    link := w.cluster.map fun (c : Cluster × Option Nat) =>
      if c.1.turns = [] then .linked c.1.currentAddress else .busy }

def markSeen (w : World) : World :=
  { w with
    exchangesSeen := w.exchanges.size
    consultations := []
    endings := []
    dials := []
    managers := w.managers.map fun m =>
      { m with seen := ((w.states[m.state]?).map SessionState.notices).getD m.seen } }

def observe (w : World) : View × World :=
  let w := w.settle
  (w.view, w.markSeen)

def runSteps (w : World) : List Step → List (Return × View)
  | [] => []
  | step :: rest =>
    let (r, w) := w.doStep step
    let (v, w) := w.observe
    (r, v) :: runSteps w rest

/-- What a command has come to when the session tasks vanish: nobody resolves it any more. -/
def resultOf (w : World) (completion : Nat) : Except SessionError Unit :=
  match w.endings.lookup completion with
  | some (.command result) => result
  | _ => .error .managerStopped

/-- Does steps, and runs whatever is ready after each. -/
def runAll (w : World) : List Step → World
  | [] => w
  | step :: rest => runAll (w.doStep step).2.settle rest

end World

end ClusterSession.Simulation
