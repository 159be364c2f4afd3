/-
  ClusterSession: requests to whichever member can be reached.

  A cluster connection keeps at most one link, to a member that the selector
  prefers.  Any number of sends may be under way; each takes its turn at the
  link, and only then looks for a member.

  * `Cluster`: the link, the member whose last request did not complete, the
    turns at the link, and the stage of every send.
  * `Cluster.start`, `Cluster.turn`, `Cluster.dialed`, `Cluster.answered` and
    `Cluster.abandon`: what may happen to a send.  Each says what the send does
    next (`Move`), and whose turn at the link has come.
  * A link is used again unless its member is the failed one, or the selector
    has changed and prefers another member.
  * A member that broke the link, did not answer in time, or was not waited for,
    is dialed last.
-/
import ClusterSession.Failure
import ClusterSession.Message
import ClusterSession.Selector

namespace ClusterSession

/-- A send, as its caller knows it. -/
abbrev Token : Type := Nat

/-- A live connection to a member. -/
structure Link where
  address : Address
  /-- The generation of the selector when the link was made or used last. -/
  generation : Nat
  /-- The connections are numbered in the order in which they were made. -/
  connection : Nat
deriving DecidableEq, Repr

/-- How far a send has come. -/
inductive Stage where
  | queued
  /-- It waits for `address` to accept a connection; `rest` come next. -/
  | dialing (address : Address) (rest : List Address) (generation : Nat)
  | sending (address : Address) (connection : Nat)
  /-- It has failed, and waits for its turn to drop the link. -/
  | dropping (address : Address) (error : ConnectionError)
deriving DecidableEq, Repr

/-- What a send does next. -/
inductive Move where
  | wait
  | dial (address : Address)
  | forward (address : Address) (connection : Nat)
  | finish (result : Except ConnectionError Response)

/-- A connection that follows the selector across the cluster. -/
structure Cluster where
  link : Option Link
  /-- The member whose last request did not complete. -/
  failed : Option Address
  /-- The sends that have their turn at the link, first, or wait for it. -/
  turns : List Token
  stages : List (Token × Stage)
  connections : Nat
deriving DecidableEq, Repr

/-- What a step leaves: the connection, the selector, the send whose turn has come, and what
    the send does next. -/
structure Routed where
  cluster : Cluster
  selector : Selector
  woken : Option Token
  move : Move

/-- The error of a member that did not answer within `limit` milliseconds. -/
def noAnswer (address : Address) (limit : Nat) : ConnectionError :=
  .timeout (address.display ++ " did not answer within " ++ toString limit ++ "ms")

/-- The candidates with the failed one last. -/
def demote (failed : Option Address) (candidates : List Address) : List Address :=
  match failed with
  | some a => if a ∈ candidates then candidates.erase a ++ [a] else candidates
  | none => candidates

namespace Cluster

def initial : Cluster :=
  { link := none, failed := none, turns := [], stages := [], connections := 0 }

def currentAddress (c : Cluster) : Option Address :=
  c.link.map (·.address)

/-! ## Turns -/

def stage? (c : Cluster) (t : Token) : Option Stage :=
  c.stages.lookup t

def forget (t : Token) (c : Cluster) : Cluster :=
  { c with stages := c.stages.filter (·.1 ≠ t) }

def enter (t : Token) (stage : Stage) (c : Cluster) : Cluster :=
  { c with stages := (t, stage) :: c.stages.filter (·.1 ≠ t) }

def takeTurn (t : Token) (c : Cluster) : Cluster :=
  { c with turns := c.turns ++ [t] }

/-- Whether it is the turn of the send. -/
def hasTurn (c : Cluster) (t : Token) : Bool :=
  c.turns.head? = some t

/-- The send that has its turn gives it up. -/
def endTurn (c : Cluster) : Cluster :=
  { c with turns := c.turns.tail }

/-- Whose turn comes when the present one ends. -/
def upNext (c : Cluster) : Option Token :=
  c.turns.tail.head?

/-- The send leaves the queue, with its turn or without. -/
def leave (t : Token) (c : Cluster) : Cluster × Option Token :=
  if c.hasTurn t then (c.endTurn, c.upNext) else ({ c with turns := c.turns.erase t }, none)

/-! ## Finding a member -/

def reusable (c : Cluster) (s : Selector) (l : Link) : Bool :=
  c.failed ≠ some l.address && (l.generation = s.generation || s.preferred = some l.address)

/-- The send asks the first of `candidates` for a connection; without one it has failed. -/
def dialNext (t : Token) (candidates : List Address) (generation : Nat) (c : Cluster)
    (s : Selector) : Routed :=
  match candidates with
  | a :: rest =>
    { cluster := c.enter t (.dialing a rest generation), selector := s, woken := none
      move := .dial a }
  | [] =>
    { cluster := c.endTurn.forget t, selector := s.rewind, woken := c.upNext
      move := .finish (.error .noServersAvailable) }

/-- The send has a connection and gives up its turn. -/
def useLink (t : Token) (l : Link) (c : Cluster) (s : Selector) : Routed :=
  { cluster := ({ c with link := some l }.endTurn).enter t (.sending l.address l.connection)
    selector := s, woken := c.upNext, move := .forward l.address l.connection }

/-- The send, whose turn it is, uses the link again or drops it and looks for a member. -/
def connect (t : Token) (c : Cluster) (s : Selector) : Routed :=
  match c.link.filter (c.reusable s) with
  | some l => c.useLink t { l with generation := s.generation } s
  | none =>
    let (candidates, drained) := s.rewind.drain
    dialNext t (demote c.failed candidates) s.generation { c with link := none } drained

/-! ## Ends -/

/-- The send, whose turn it is, drops the link to `a` and fails. -/
def dropLink (t : Token) (a : Address) (e : ConnectionError) (c : Cluster) (s : Selector) :
    Routed :=
  { cluster := (({ c with
        link := c.link.filter (·.address ≠ a)
        failed := some a }).endTurn).forget t
    selector := s, woken := c.upNext, move := .finish (.error e) }

/-- The answer of `a` clears it of its failure. -/
def settle (a : Address) (c : Cluster) : Cluster :=
  if c.failed = some a then { c with failed := none } else c

def idle (c : Cluster) (s : Selector) : Routed :=
  { cluster := c, selector := s, woken := none, move := .wait }

/-! ## What may happen to a send -/

def start (t : Token) (c : Cluster) (s : Selector) : Routed :=
  let c := (c.takeTurn t).enter t .queued
  if c.hasTurn t then c.connect t s else c.idle s

/-- The turn of the send may have come. -/
def turn (t : Token) (c : Cluster) (s : Selector) : Routed :=
  if c.hasTurn t then
    match c.stage? t with
    | some .queued => c.connect t s
    | some (.dropping a e) => c.dropLink t a e s
    | _ => c.idle s
  else c.idle s

/-- The member that the send dialed has accepted or refused a connection. -/
def dialed (t : Token) (accepted : Bool) (c : Cluster) (s : Selector) : Routed :=
  match c.stage? t with
  | some (.dialing a rest generation) =>
    if accepted then
      { c with connections := c.connections + 1 }.useLink t
        { address := a, generation, connection := c.connections } s
    else c.dialNext t rest generation s
  | _ => c.idle s

/-- The request of the send has a result. -/
def answered (t : Token) (result : Except ConnectionError Response) (c : Cluster)
    (s : Selector) : Routed :=
  match c.stage? t, result with
  | some (.sending a _), .error e =>
    if e.breaksLink || e.isTimeout then
      let c := (c.takeTurn t).enter t (.dropping a e)
      if c.hasTurn t then c.dropLink t a e s else c.idle s
    else
      { cluster := (c.settle a).forget t, selector := s, woken := none
        move := .finish (.error e) }
  | some (.sending a _), .ok r =>
    { cluster := (c.settle a).forget t, selector := s, woken := none, move := .finish (.ok r) }
  | _, _ => c.idle s

/-- The caller of the send stops waiting for it. -/
def abandon (t : Token) (c : Cluster) : Cluster × Option Token :=
  match c.stage? t with
  | some .queued | some (.dialing _ _ _) => (c.forget t).leave t
  | some (.sending a _) => ({ c with failed := some a }.forget t, none)
  | some (.dropping a _) => ({ c with failed := some a }.forget t).leave t
  | none => (c, none)

end Cluster

end ClusterSession
