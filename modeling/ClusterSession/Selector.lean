/-
  ClusterSession: what a client believes about the cluster.

  * `SelectionStrategy.select`: the order in which members are tried.
  * `Selector`: the known leader, the members, the candidates that follow from
    both, and how many of the candidates have been handed out.
  * `Selector.reset` and `Selector.clearLeader` order the candidates anew and
    count up the generation, so that a connection notices the change;
    `Selector.next` hands out a candidate and `Selector.rewind` starts over.
-/
import ClusterSession.Address

namespace ClusterSession

/-- Order in which members are tried. -/
inductive SelectionStrategy where
  /-- The leader first, if one is known, then every other member. -/
  | any
  /-- Only the leader, if one is known, else every member. -/
  | leader
  /-- Every member but the leader, or all members if that leaves none. -/
  | followers
deriving DecidableEq, Repr, Inhabited

/-- The members of `servers` other than `leader`, in order. -/
def others (leader : Address) (servers : List Address) : List Address :=
  servers.filter (· ≠ leader)

/-- The candidates among `servers`, in the order in which they are tried. -/
def SelectionStrategy.select (strategy : SelectionStrategy) (leader : Option Address)
    (servers : List Address) : List Address :=
  match leader, strategy with
  | none, _ => servers
  | some l, .any => l :: others l servers
  | some l, .leader => [l]
  | some l, .followers => if others l servers = [] then servers else others l servers

/-- How far the candidates have been handed out. -/
inductive Progress where
  | reset
  /-- Some candidates have been handed out, some not. -/
  | iterate
  | complete
deriving DecidableEq, Repr

/-- Drops every address that occurred before. -/
def distinct : List Address → List Address :=
  List.foldl (fun seen a => if a ∈ seen then seen else seen ++ [a]) []

/-- The known leader and members, and the position in the candidates. -/
structure Selector where
  strategy : SelectionStrategy
  leader : Option Address
  servers : List Address
  candidates : List Address
  position : Nat
  generation : Nat
deriving DecidableEq, Repr

namespace Selector

/-- Orders the candidates anew and starts over. -/
def reselect (s : Selector) : Selector :=
  { s with
    candidates := s.strategy.select s.leader s.servers
    position := 0
    generation := s.generation + 1 }

/-- A selector over `servers` without a known leader. -/
def ofServers (strategy : SelectionStrategy) (servers : List Address) : Selector :=
  reselect
    { strategy, leader := none, servers := distinct servers
      candidates := [], position := 0, generation := 0 }

/-- The members after a report of `leader` and `servers`: no members reported keeps the
    present ones, and a leader that is missing is put in front. -/
def membership (present : List Address) (leader : Option Address) (servers : List Address) :
    List Address :=
  let reported := distinct servers
  let kept := if reported = [] then present else reported
  match leader with
  | none => kept
  | some l => if l ∈ kept then kept else l :: kept

/-- Takes over a report of the leader and the members. -/
def reset (s : Selector) (leader : Option Address) (servers : List Address) : Selector :=
  reselect { s with leader, servers := membership s.servers leader servers }

/-- Forgets the leader and keeps the members. -/
def clearLeader (s : Selector) : Selector :=
  reselect { s with leader := none }

/-- Hands out the next candidate, if one is left. -/
def next (s : Selector) : Option Address × Selector :=
  match s.candidates[s.position]? with
  | some a => (some a, { s with position := s.position + 1 })
  | none => (none, s)

def rewind (s : Selector) : Selector :=
  { s with position := 0 }

/-- Hands out every candidate that is left. -/
def drain (s : Selector) : List Address × Selector :=
  (s.candidates.drop s.position, { s with position := max s.position s.candidates.length })

def preferred (s : Selector) : Option Address :=
  s.candidates.head?

/-- How far the candidates have been handed out. -/
def progress (s : Selector) : Progress :=
  if s.position = 0 then .reset
  else if s.position < s.candidates.length then .iterate
  else .complete

end Selector

end ClusterSession
