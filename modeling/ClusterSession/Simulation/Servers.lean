/-
  ClusterSession: a cluster connection to members behind web sockets.

  * `Servers`: who listens at each member, what the members will reply, and the connections.
  * `Servers.request`: sends a request and waits for its answer.
  * `Servers.log`: what the members have seen.
-/
import ClusterSession.Rpc
import ClusterSession.WebSocket

namespace ClusterSession.Simulation

open Json WebSocket

/-- What a member sees. -/
inductive Sighting where
  | accepted (member : Nat) (path : String)
  | frame (member : Nat) (text : String)

/-- Members behind web sockets, and a cluster connection to them. -/
structure Servers where
  path : String
  members : List (Address × Listener)
  /-- What the members send after each request. -/
  replies : List (List Frame)
  cluster : Cluster
  selector : Selector
  /-- The connections, in the order in which they were made. -/
  connections : List Rpc
  sends : Nat
  log : List Sighting

namespace Servers

def ofListeners (path : String) (members : List (Address × Listener)) (replies : List (List Frame)) :
    Servers :=
  { path, members, replies, cluster := .initial
    selector := .ofServers .any (members.map (·.1)), connections := [], sends := 0, log := [] }

def index (s : Servers) (a : Address) : Nat :=
  s.members.findIdx fun p => p.1 = a

def knock (a : Address) (s : Servers) : Bool × Servers :=
  if opens ((s.members.lookup a).getD .refuses) s.path then
    (true, { s with
      connections := s.connections ++ [.initial]
      log := s.log ++ [.accepted (s.index a) (requestedPath s.path)] })
  else (false, s)

def hear (frames : List Frame) (c : Rpc) : Rpc :=
  let (values, reading) := receive true frames
  let c := values.foldl (fun c v => c.receive v) c
  match reading with
  | .running => c
  | .ended _ => c.shutdown

/-- A request goes over a connection: its answer, if one comes. -/
def exchange (t : Token) (r : Request) (a : Address) (n : Nat) (s : Servers) :
    Option (Except ConnectionError Response) × Servers :=
  match s.connections[n]? with
  | none => (none, s)
  | some c =>
    match c.start t r with
    | (.error e, c) => (some (.error e), { s with connections := s.connections.set n c })
    | (.ok frame, c) =>
      let said := s.replies.headD [.lost]
      let (answer, c) := (hear said (c.written t (.ok ())).2).resume t
      (answer, { s with
        connections := s.connections.set n c
        replies := s.replies.tail
        log := s.log ++ [.frame (s.index a) frame.toValue.canonical.compact] })

/-- What a send does next, until it is over. -/
def follow (t : Token) (request : Request) :
    (fuel : Nat) → Move → Servers → Option (Except ConnectionError Response) × Servers
  | 0, _, s => (none, s)
  | fuel + 1, move, s =>
    match move with
    | .wait => (none, s)
    | .finish result => (some result, s)
    | .dial a =>
      let (accepted, s) := s.knock a
      let r := s.cluster.dialed t accepted s.selector
      follow t request fuel r.move { s with cluster := r.cluster, selector := r.selector }
    | .forward a n =>
      match s.exchange t request a n with
      | (none, s) => (none, s)
      | (some result, s) =>
        let r := s.cluster.answered t result s.selector
        follow t request fuel r.move { s with cluster := r.cluster, selector := r.selector }

/-- Sends a request and waits for its answer. -/
def request (r : Request) (s : Servers) : Option (Except ConnectionError Response) × Servers :=
  let t := s.sends
  let first := s.cluster.start t s.selector
  follow t r (s.members.length + 4) first.move
    { s with cluster := first.cluster, selector := first.selector, sends := t + 1 }

/-- The selector learns of a leader, and of no members beside it. -/
def reset (leader : Address) (s : Servers) : Servers :=
  { s with selector := s.selector.reset (some leader) [] }

/-- The number of the member that is linked. -/
def linked (s : Servers) : Option Nat :=
  s.cluster.currentAddress.map s.index

end Servers

end ClusterSession.Simulation
