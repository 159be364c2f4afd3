/-
  ClusterSession: one connection and its peer.

  * `Bench`: a connection, the messages of the peer that have not been read,
    and which writes fail.
  * `Bench.Step`: what an experimenter can do.
  * `Bench.act`: does steps at once.  Everything that is started runs first, in
    order; then the messages of the peer are read; and only then, if the peer
    has gone, the connection ends.
-/
import ClusterSession.Rpc

namespace ClusterSession.Simulation

open Json

/-- A connection and its peer. -/
structure Bench where
  rpc : Rpc
  writeError : Nat → Option ConnectionError
  writes : Nat
  /-- Messages of the peer that have not been read. -/
  inbound : List Value
  gone : Bool
  /-- For each time that reading was started, whether it is over. -/
  runs : List Bool
  sends : Nat
  /-- Frames that were written since the last look. -/
  sent : List RequestFrame
  done : List (Token × Except ConnectionError Response)

namespace Bench

/-- What an experimenter can do. -/
inductive Step where
  | run
  | send (request : Request)
  | abandon (t : Token)
  | inject (message : Value)
  | disconnect

/-- A connection on which nothing has happened. -/
def ofWriteErrors (writeError : Nat → Option ConnectionError) : Bench :=
  { rpc := .initial, writeError, writes := 0, inbound := [], gone := false, runs := []
    sends := 0, sent := [], done := [] }

def conclude (t : Token) (result : Option (Except ConnectionError Response)) (b : Bench) :
    Bench :=
  match result with
  | some r => { b with done := b.done ++ [(t, r)] }
  | none => b

/-- A send starts, and its frame is written or not. -/
def startSend (t : Token) (request : Request) (b : Bench) : Bench :=
  match b.rpc.start t request with
  | (.error e, rpc) => { b with rpc }.conclude t (some (.error e))
  | (.ok frame, rpc) =>
    let n := b.writes
    match b.writeError n with
    | some e =>
      let (result, rpc) := rpc.written t (.error e)
      { b with rpc, writes := n + 1 }.conclude t result
    | none =>
      let (result, rpc) := rpc.written t (.ok ())
      { b with rpc, writes := n + 1, sent := b.sent ++ [frame] }.conclude t result

/-- Sends that are given up among the steps; the next send has the number `next`, and one that
    has no number yet cannot be given up. -/
def givenUp (next : Token) : List Step → List Token
  | [] => []
  | .abandon t :: rest =>
    if t < next then t :: givenUp next rest else givenUp next rest
  | .send _ :: rest => givenUp (next + 1) rest
  | _ :: rest => givenUp next rest

/-- Does a step; a send that is in `skipped` never starts. -/
def doStep (skipped : List Token) (b : Bench) : Step → Bench
  | .run => { b with runs := b.runs ++ [!b.runs.isEmpty] }
  | .send request =>
    let t := b.sends
    let b := { b with sends := t + 1 }
    if skipped.contains t then b else b.startSend t request
  | .abandon t => { b with rpc := b.rpc.abandon t }
  | .inject message => if b.gone then b else { b with inbound := b.inbound ++ [message] }
  | .disconnect => { b with gone := true }

/-- Every send that was told its result ends. -/
def resumeAll (b : Bench) : Bench :=
  (b.rpc.sends.map (·.token)).foldl
    (fun b t =>
      let (result, rpc) := b.rpc.resume t
      { b with rpc }.conclude t result)
    b

/-- The messages of the peer are read; if it has gone, the connection ends. -/
def readAll (b : Bench) : Bench :=
  match b.runs with
  | false :: later =>
    let rpc := b.inbound.foldl (fun rpc v => rpc.receive v) b.rpc
    let b := { b with rpc, inbound := [] }.resumeAll
    if b.gone then { b with rpc := b.rpc.shutdown, runs := true :: later }.resumeAll else b
  | _ => b

def act (steps : List Step) (b : Bench) : Bench :=
  (steps.foldl (doStep (givenUp b.sends steps)) { b with sent := [], done := [] }).readAll

/-- Sends that have ended, in order of their numbers. -/
def sortedDone (b : Bench) : List (Token × Except ConnectionError Response) :=
  b.done.mergeSort fun a b => a.1 ≤ b.1

end Bench

end ClusterSession.Simulation
