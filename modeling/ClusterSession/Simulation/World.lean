/-
  ClusterSession: sessions and members on a virtual clock — the data.

  A simulated world holds session tasks, the requests that are under way, and
  members that answer as they are told.  Time passes in whole milliseconds, and
  only when nothing is left to run.

  * `Exchange`: a request that has reached a member.
  * `Job`: what can run: a session task, a timer, a request under way.
  * `World`: everything, with the jobs that are ready in order of being woken,
    and a record of what happened since the last look.
-/
import ClusterSession.Cluster
import ClusterSession.Config
import ClusterSession.Session.Handlers

namespace ClusterSession.Simulation

/-! ## Members -/

/-- What became of a request that has reached a member. -/
inductive Fate where
  | awaited
  | told (result : Except ConnectionError Response)
  | forsaken
  | spent

/-- A request that has reached a member. -/
structure Exchange where
  time : Nat
  request : Request
  /-- The member, if requests go through a cluster connection. -/
  member : Option Address
  fate : Fate

/-- What a member does with the next request. -/
inductive Plan where
  /-- It answers after so many milliseconds. -/
  | answer (result : Except ConnectionError Response) (delay : Nat)
  | hang

/-- How a member takes connections. -/
inductive Mode where
  | up
  | down
  | hang
  /-- It accepts after so many milliseconds. -/
  | slow (millis : Nat)
deriving DecidableEq, Repr

/-! ## Jobs -/

/-- On whose behalf a request is sent. -/
inductive Owner where
  | manager (m : Nat) (errand : Errand)
  | caller (completion : Nat)

/-- What a request under way waits for. -/
inductive Waiting where
  | fresh
  | turn
  /-- For a connection, which will be accepted at some time, or never. -/
  | dial (due : Option Nat)
  | exchange (x : Nat)
  /-- For an answer that will come at some time. -/
  | answer (due : Nat) (result : Except ConnectionError Response)

/-- A request under way. -/
structure Sending where
  owner : Owner
  request : Request
  limit : Option Duration
  deadline : Option Nat
  /-- Until when the cluster connection waits for a member. -/
  memberDeadline : Option (Address × Nat)
  waiting : Waiting
  cancelled : Bool

/-- A timer of a session task. -/
structure Timer where
  manager : Nat
  id : Nat
  purpose : Purpose
  ticks : Nat
  due : Option Nat

/-- What can run. -/
inductive Job where
  | task (m : Nat)
  | timer (t : Timer)
  | sending (s : Sending)

/-- A job that is to be woken at some time. -/
structure Alarm where
  due : Nat
  job : Nat
deriving DecidableEq, Repr

/-! ## Session tasks -/

/-- A session task with its queues. -/
structure Manager where
  session : Session
  state : Nat
  strategy : Strategy
  recorded : Bool
  limit : Duration
  job : Nat
  commands : List Command
  events : List Event
  handles : Nat
  detached : Bool
  stopped : Bool
  /-- Notices of its state that have been seen. -/
  seen : Nat

/-! ## The world -/

/-- A recorded consultation. -/
structure Consultation where
  time : Nat
  manager : Nat
  attempt : Attempt
  decision : Decision

/-- How a completion ended. -/
inductive Ending where
  | command (result : Except SessionError Unit)
  | reply (result : Except ConnectionError Response)

/-- Everything there is. -/
structure World where
  now : Nat
  jobs : Array (Option Job)
  /-- Jobs that are ready, in order of being woken. -/
  ready : List Nat
  /-- In order of being set. -/
  alarms : List Alarm
  managers : Array Manager
  states : Array SessionState
  selector : Selector
  /-- The cluster connection, with the milliseconds it waits for a member. -/
  cluster : Option (Cluster × Option Nat)
  modes : List (Address × Mode)
  plans : List Plan
  exchanges : Array Exchange
  /-- For each handle its task, as long as it has not been dropped. -/
  handles : Array (Option Nat)
  completions : Nat
  forgotten : List Nat
  callers : List (Nat × Nat)
  exchangesSeen : Nat
  consultations : List Consultation
  endings : List (Nat × Ending)
  dials : List (Nat × Address)

namespace World

def ofSelector (selector : Selector) (cluster : Option (Option Nat)) : World :=
  { now := 0, jobs := #[], ready := [], alarms := [], managers := #[], states := #[]
    selector, cluster := cluster.map fun limit => (.initial, limit)
    modes := [], plans := [], exchanges := #[], handles := #[], completions := 0
    forgotten := [], callers := [], exchangesSeen := 0, consultations := [], endings := []
    dials := [] }

/-! ## Jobs -/

/-- The job of that number, unless it is over. -/
def job? (w : World) (j : Nat) : Option Job :=
  (w.jobs[j]?).join

def wake (j : Nat) (w : World) : World :=
  if w.ready.contains j then w else { w with ready := w.ready ++ [j] }

/-- Wakes a job, if there is one to wake. -/
def wakeSome (j : Option Nat) (w : World) : World :=
  match j with
  | some j => w.wake j
  | none => w

/-- Starts a job; it runs after all jobs that are ready. -/
def spawn (job : Job) (w : World) : Nat × World :=
  let j := w.jobs.size
  (j, { w with jobs := w.jobs.push (some job) }.wake j)

def keep (j : Nat) (job : Job) (w : World) : World :=
  { w with jobs := w.jobs.setIfInBounds j (some job) }

def close (j : Nat) (w : World) : World :=
  { w with
    jobs := w.jobs.setIfInBounds j none
    alarms := w.alarms.filter (·.job ≠ j) }

def setAlarm (due j : Nat) (w : World) : World :=
  { w with alarms := w.alarms ++ [{ due, job := j }] }

/-! ## Parts -/

def updateManager (m : Nat) (f : Manager → Manager) (w : World) : World :=
  { w with managers := w.managers.modify m f }

def updateState (i : Nat) (f : SessionState → SessionState) (w : World) : World :=
  { w with states := w.states.modify i f }

/-- Changes what became of an exchange. -/
def setFate (x : Nat) (fate : Fate) (w : World) : World :=
  { w with exchanges := w.exchanges.modify x fun e => { e with fate } }

/-- Records how a completion ended, if anybody waits for it. -/
def conclude (c : Nat) (e : Ending) (w : World) : World :=
  if w.forgotten.contains c then w else { w with endings := w.endings ++ [(c, e)] }

def post (m : Nat) (e : Event) (w : World) : World :=
  match w.managers[m]? with
  | some manager =>
    if manager.stopped then w
    else (w.updateManager m fun x => { x with events := x.events ++ [e] }).wake manager.job
  | none => w

def modeOf (w : World) (a : Address) : Mode :=
  (w.modes.lookup a).getD .up

end World

end ClusterSession.Simulation
