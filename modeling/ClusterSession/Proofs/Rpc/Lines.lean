/-
  ClusterSession: the life of a connection.

  Callers start sends, wait for them and give them up; the transport takes their
  frames, sooner or later; the peer says what it likes, and hangs up.  Whatever can
  happen may happen at any time.

  * `Line`: a connection with all that is on its way, and a log of what has been seen
    of it.
  * `Incident`: what can happen; `Line.step` is what comes of it, and `Line.run` is
    one incident after another.
  * `Pends` and `Awaits`: by the log, a send is not over, and it still waits for the
    frame with its number.
-/
import ClusterSession.Proofs.Rpc.Tables

namespace ClusterSession

open Json

/-- What is seen of a connection. -/
inductive Entry where
  /-- A send has started, and its frame is to be written. -/
  | began (t : Token) (frame : RequestFrame)
  /-- A send has failed as it started. -/
  | refused (e : ConnectionError)
  /-- The transport has been given the frame of the send. -/
  | handed (t : Token) (frame : RequestFrame)
  /-- The transport is done with the frame of the send. -/
  | wrote (t : Token) (outcome : Except ConnectionError Unit)
  /-- A response frame has been dispatched. -/
  | read (frame : ResponseFrame)
  /-- A message that is no response frame has been passed over. -/
  | passed
  /-- The send is over. -/
  | ended (t : Token) (result : Except ConnectionError Response)
  /-- The caller has given the send up. -/
  | abandoned (t : Token)
  /-- The connection has been marked as closed. -/
  | closed

/-- A connection among its callers, its transport and its peer. -/
structure Line where
  rpc : Rpc
  /-- Number of sends that have got a number; the sends are named in this order. -/
  begun : Nat
  /-- The frames that the transport has not been given. -/
  frames : List (Token × RequestFrame)
  /-- The messages of the peer that have not been dispatched. -/
  inbound : List Value
  /-- The peer sends no more messages. -/
  gone : Bool
  /-- The messages of the peer are being read. -/
  reading : Bool
  log : List Entry

/-- What can happen to a connection. -/
inductive Incident where
  /-- A caller starts a send. -/
  | send (r : Request)
  /-- The transport is given the frame of a send. -/
  | hand (t : Token)
  /-- The transport is done with the frame of a send. -/
  | wrote (t : Token) (outcome : Except ConnectionError Unit)
  /-- A send looks for its result. -/
  | resume (t : Token)
  /-- A caller gives a send up. -/
  | abandon (t : Token)
  /-- A message of the peer arrives. -/
  | arrive (v : Value)
  /-- The messages of the peer end. -/
  | hangUp
  /-- The connection is run: its messages are read from now on. -/
  | run
  /-- The first message is dispatched. -/
  | dispatch
  /-- The end of the messages is noticed. -/
  | close

namespace Line

/-- A connection that has just been made. -/
def initial : Line :=
  { rpc := .initial, begun := 0, frames := [], inbound := [], gone := false, reading := false
    log := [] }

/-- A caller starts a send. -/
def send (r : Request) (l : Line) : Line :=
  match l.rpc.start l.begun r with
  | (.ok frame, rpc) =>
    { l with
      rpc
      begun := l.begun + 1
      frames := l.frames ++ [(l.begun, frame)]
      log := l.log ++ [.began l.begun frame] }
  | (.error e, rpc) => { l with rpc, log := l.log ++ [.refused e] }

/-- The transport is given the frame of a send. -/
def hand (t : Token) (l : Line) : Line :=
  match l.frames.lookup t with
  | some frame =>
    { l with frames := l.frames.filter (·.1 ≠ t), log := l.log ++ [.handed t frame] }
  | none => l

/-- A send has gone on, and perhaps it is over. -/
def goOn (t : Token) (x : Option (Except ConnectionError Response) × Rpc) (l : Line) : Line :=
  match x with
  | (some result, rpc) => { l with rpc, log := l.log ++ [.ended t result] }
  | (none, rpc) => { l with rpc }

/-- The transport is done with the frame of a send, which it was given and was not done with. -/
def wrote (t : Token) (outcome : Except ConnectionError Unit) (l : Line) : Line :=
  match l.rpc.send? t, l.frames.lookup t with
  | some p, none =>
    if p.written then l
    else
      let l := { l with log := l.log ++ [Entry.wrote t outcome] }
      match outcome with
      -- the second half of `Rpc.written` is an incident of its own, `resume`
      | .ok _ => { l with rpc := l.rpc.noteWritten t }
      | .error e => l.goOn t (l.rpc.written t (.error e))
  | _, _ => l

/-- A caller gives a send up. -/
def abandon (t : Token) (l : Line) : Line :=
  match l.rpc.send? t with
  | some _ =>
    { l with
      rpc := l.rpc.abandon t
      frames := l.frames.filter (·.1 ≠ t)
      log := l.log ++ [.abandoned t] }
  | none => l

/-- What is seen of a message. -/
def seen (v : Value) : Entry :=
  match ResponseFrame.ofValue v with
  | .ok f => .read f
  | .error _ => .passed

/-- The first message is dispatched. -/
def dispatch (l : Line) : Line :=
  match l.reading && !l.rpc.closed, l.inbound with
  | true, v :: rest =>
    { l with rpc := l.rpc.receive v, inbound := rest, log := l.log ++ [seen v] }
  | _, _ => l

/-- The end of the messages is noticed: all of them have been dispatched. -/
def close (l : Line) : Line :=
  if l.reading && l.gone && l.inbound.isEmpty && !l.rpc.closed then
    { l with rpc := l.rpc.shutdown, log := l.log ++ [.closed] }
  else l

/-- What comes of an incident. -/
def step (l : Line) : Incident → Line
  | .send r => l.send r
  | .hand t => l.hand t
  | .wrote t outcome => l.wrote t outcome
  | .resume t => l.goOn t (l.rpc.resume t)
  | .abandon t => l.abandon t
  | .arrive v => if l.gone then l else { l with inbound := l.inbound ++ [v] }
  | .hangUp => { l with gone := true }
  | .run => { l with reading := true }
  | .dispatch => l.dispatch
  | .close => l.close

/-- One incident after another. -/
def run (is : List Incident) : Line := is.foldl step initial

theorem run_concat (is : List Incident) (i : Incident) : run (is ++ [i]) = (run is).step i :=
  List.foldl_concat _ _ _ _

end Line

/-! ## Logs -/

namespace Entry

/-- A send has started. -/
def starts : Entry → Bool
  | began _ _ => true
  | _ => false

/-- The send is over. -/
def ends (t : Token) : Entry → Bool
  | ended t' _ | abandoned t' => t' = t
  | _ => false

/-- The send no longer waits for the frame of that number. -/
def settles (t : Token) (id : UInt32) : Entry → Bool
  | read frame => frame.id = id
  | closed => true
  | e => e.ends t

end Entry

/-- The send has started with that number, and nothing has been of some kind since. -/
def Since (q : Entry → Bool) (log : List Entry) (t : Token) (id : UInt32) : Prop :=
  ∃ before frame after, log = before ++ .began t frame :: after ∧ frame.id = id ∧
    ∀ e ∈ after, q e = false

/-- The send has started with that number and is not over. -/
def Pends (log : List Entry) (t : Token) (id : UInt32) : Prop := Since (Entry.ends t) log t id

/-- The send has started with that number, it is not over, and neither has a frame of that number
    been dispatched since, nor has the connection been closed. -/
def Awaits (log : List Entry) (t : Token) (id : UInt32) : Prop :=
  Since (Entry.settles t id) log t id

/-- An entry of a log is its last one, or one of those before. -/
theorem concat_eq_iff {log a b : List Entry} {e x : Entry} :
    log ++ [e] = a ++ x :: b ↔
      (log = a ∧ e = x ∧ b = []) ∨ ∃ rest, log = a ++ x :: rest ∧ b = rest ++ [e] := by
  constructor
  · intro h
    rcases List.eq_nil_or_concat b with rfl | ⟨rest, y, rfl⟩
    · obtain ⟨ha, hx⟩ := List.append_inj' h rfl
      exact .inl ⟨ha, List.singleton_inj.1 hx, rfl⟩
    · rw [List.concat_eq_append] at h ⊢
      rw [← List.cons_append, ← List.append_assoc] at h
      obtain ⟨hlog, hy⟩ := List.append_inj' h rfl
      exact .inr ⟨rest, hlog, by rw [List.singleton_inj.1 hy]⟩
  · rintro (⟨rfl, rfl, rfl⟩ | ⟨rest, rfl, rfl⟩)
    · rfl
    · rw [List.append_assoc, List.cons_append]

theorem not_since_nil {q : Entry → Bool} {t : Token} {id : UInt32} : ¬Since q [] t id := by
  rintro ⟨before, frame, after, he, -⟩
  exact List.append_ne_nil_of_right_ne_nil _ (List.cons_ne_nil _ _) he.symm

theorem since_concat {q : Entry → Bool} {log : List Entry} {e : Entry} {t : Token} {id : UInt32} :
    Since q (log ++ [e]) t id ↔
      (∃ frame, e = .began t frame ∧ frame.id = id) ∨ Since q log t id ∧ q e = false := by
  constructor
  · rintro ⟨before, frame, after, he, hid, hafter⟩
    rcases concat_eq_iff.1 he with ⟨rfl, rfl, rfl⟩ | ⟨rest, rfl, rfl⟩
    · exact .inl ⟨frame, rfl, hid⟩
    · refine .inr ⟨⟨before, frame, rest, rfl, hid, fun y hy => ?_⟩, ?_⟩
      · exact hafter y (List.mem_append_left _ hy)
      · exact hafter e (List.mem_append_right _ List.mem_cons_self)
  · rintro (⟨frame, rfl, hid⟩ | ⟨⟨before, frame, after, rfl, hid, hafter⟩, hq⟩)
    · exact ⟨log, frame, [], rfl, hid, by simp⟩
    · refine ⟨before, frame, after ++ [e], by simp, hid, fun y hy => ?_⟩
      rcases List.mem_append.1 hy with hy | hy
      · exact hafter y hy
      · rw [List.mem_singleton.1 hy]
        exact hq

theorem since_concat_iff {q : Entry → Bool} {log : List Entry} {e : Entry} {t : Token}
    {id : UInt32} (hs : e.starts = false) :
    Since q (log ++ [e]) t id ↔ Since q log t id ∧ q e = false := by
  rw [since_concat]
  constructor
  · rintro (⟨frame, rfl, -⟩ | h)
    · cases hs
    · exact h
  · exact .inr

/-- A send that has just started is one more. -/
theorem since_concat_began {q : Entry → Bool} {log : List Entry} {t₀ t : Token}
    {frame : RequestFrame} {id : UInt32} (hq : q (.began t₀ frame) = false) :
    Since q (log ++ [.began t₀ frame]) t id ↔ t₀ = t ∧ frame.id = id ∨ Since q log t id := by
  rw [since_concat, hq]
  constructor
  · rintro (⟨frame', he, rfl⟩ | ⟨hold, -⟩)
    · cases he
      exact .inl ⟨rfl, rfl⟩
    · exact .inr hold
  · rintro (⟨rfl, rfl⟩ | hold)
    · exact .inl ⟨_, rfl, rfl⟩
    · exact .inr ⟨hold, rfl⟩

/-- An entry that starts no send and is not of the kind changes nothing. -/
theorem since_concat_of {q : Entry → Bool} {log : List Entry} {e : Entry} {t : Token}
    {id : UInt32} (hs : e.starts = false) (hq : q e = false) :
    Since q (log ++ [e]) t id ↔ Since q log t id := by
  rw [since_concat_iff hs, hq]
  exact and_iff_left rfl

/-- Whoever still waits is not over. -/
theorem Awaits.pends {log : List Entry} {t : Token} {id : UInt32} (h : Awaits log t id) :
    Pends log t id := by
  obtain ⟨before, frame, after, hlog, hid, hafter⟩ := h
  refine ⟨before, frame, after, hlog, hid, fun e he => ?_⟩
  have hs := hafter e he
  cases e <;> first | rfl | exact hs

end ClusterSession
