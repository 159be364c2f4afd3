/-
  ClusterSession: requests and responses on one connection.

  Every request gets a number; the response with that number answers it.  The
  numbers have thirty-two bits and are given out in turn.

  * `Rpc`: the next number, the sends that wait under a number, and whether the
    connection has ended.
  * `Rpc.start`, `Rpc.written`, `Rpc.resume` and `Rpc.abandon`: what may happen
    to a send.
  * `Rpc.receive` and `Rpc.shutdown`: a message of the peer, and the end of its
    messages.
-/
import ClusterSession.Cluster
import ClusterSession.Wire

namespace ClusterSession

open Json

/-- A send that has started and is not over. -/
structure Pending where
  token : Token
  id : UInt32
  /-- Its frame has been written. -/
  written : Bool
  /-- What it was told while it waited. -/
  told : Option (Except ConnectionError Response)

/-- A connection to one peer. -/
structure Rpc where
  nextId : UInt32
  /-- The numbers that are waited for, and by whom. -/
  callbacks : List (UInt32 × Token)
  sends : List Pending
  /-- The peer's messages have ended. -/
  closed : Bool

namespace Rpc

/-- A connection on which nothing has been sent. -/
def initial : Rpc :=
  { nextId := 0, callbacks := [], sends := [], closed := false }

/-- The send, if it has started and is not over. -/
def send? (c : Rpc) (t : Token) : Option Pending :=
  c.sends.find? (·.token = t)

def update (t : Token) (f : Pending → Pending) (c : Rpc) : Rpc :=
  { c with sends := c.sends.map fun p => if p.token = t then f p else p }

/-- Tells a send how it ends, unless it was told before. -/
def tell (t : Token) (result : Except ConnectionError Response) (c : Rpc) : Rpc :=
  c.update t fun p => if p.told.isSome then p else { p with told := some result }

/-- Nobody waits for `id` any more; whoever did is told that the wait was given up. -/
def unpark (id : UInt32) (c : Rpc) : Rpc :=
  match c.callbacks.lookup id with
  | some t =>
    { c with callbacks := c.callbacks.filter (·.1 ≠ id) }.tell t (.error .channelClosed)
  | none => c

/-- The send is over, and nobody waits for its number. -/
def finish (p : Pending) (c : Rpc) : Rpc :=
  { c with sends := c.sends.filter (·.token ≠ p.token) }.unpark p.id

/-! ## What may happen to a send -/

/-- The send starts: it waits under the next number, and its frame is to be written.  On an
    ended connection it fails at once. -/
def start (t : Token) (r : Request) (c : Rpc) : Except ConnectionError RequestFrame × Rpc :=
  if c.closed then (.error .connectionClosed, c)
  else
    let id := c.nextId
    let c := c.unpark id
    (.ok { id, body := r },
      { c with
        nextId := id + 1
        callbacks := (id, t) :: c.callbacks
        sends := c.sends ++ [{ token := t, id, written := false, told := none }] })

/-- The send goes on: it is over if its frame has been written and it was told its result. -/
def resume (t : Token) (c : Rpc) : Option (Except ConnectionError Response) × Rpc :=
  match c.send? t with
  | some p =>
    match p.written, p.told with
    | true, some result => (some result, c.finish p)
    | _, _ => (none, c)
  | none => (none, c)

/-- Takes note that the frame of the send has been written. -/
def noteWritten (t : Token) (c : Rpc) : Rpc :=
  c.update t fun p => { p with written := true }

/-- The frame of the send has been written, or could not be. -/
def written (t : Token) (outcome : Except ConnectionError Unit) (c : Rpc) :
    Option (Except ConnectionError Response) × Rpc :=
  match c.send? t, outcome with
  | some p, .error e => (some (.error e), c.finish p)
  | some _, .ok _ => (c.noteWritten t).resume t
  | none, _ => (none, c)

/-- The caller of the send stops waiting for it. -/
def abandon (t : Token) (c : Rpc) : Rpc :=
  match c.send? t with
  | some p => c.finish p
  | none => c

/-! ## The peer -/

/-- A response has come: whoever waits for its number is told. -/
def dispatch (f : ResponseFrame) (c : Rpc) : Rpc :=
  match c.callbacks.lookup f.id with
  | some t => { c with callbacks := c.callbacks.filter (·.1 ≠ f.id) }.tell t (.ok f.body)
  | none => c

/-- A message has come.  One that is no response frame is passed over. -/
def receive (v : Value) (c : Rpc) : Rpc :=
  match ResponseFrame.ofValue v with
  | .ok f => c.dispatch f
  | .error _ => c

/-- The peer's messages have ended: whoever waits is told so. -/
def shutdown (c : Rpc) : Rpc :=
  c.callbacks.foldl (fun c entry => c.tell entry.2 (.error .connectionClosed))
    { c with closed := true, callbacks := [] }

end Rpc

end ClusterSession
