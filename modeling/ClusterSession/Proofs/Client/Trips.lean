/-
  ClusterSession: a session task whose requests go through a cluster connection.

  The task and the connection share a selector.  Every request makes a trip: it waits to
  be sent, is on its way in the connection, and comes back with a result, which the task
  takes in later.  Nobody else sends through the connection, but others may change the
  selector.  Whatever can happen may happen at any time; only the clock stands still
  while there is something to do.

  * `Client`: the task, the connection, and how far each request has come.
  * `Occurrence`: what can happen; `Client.step` is what comes of it.
  * `Client.Sound`, `run_sound`: what holds of a client at any time.
-/
import ClusterSession.Proofs.Cluster.Traffic
import ClusterSession.Proofs.Session.Crews
import ClusterSession.Proofs.Session.Silence

namespace ClusterSession

namespace Life

section
variable {h : Happening}

theorem calls_length (l : Life) : l.calls.length = l.outstanding.length := List.length_map _

/-- An outcome that is taken in is one less; nothing else is. -/
theorem step_outstanding_le (strategy : Strategy) (l : Life) (h : Happening) :
    l.outstanding.length ≤ (l.step strategy h).outstanding.length + 1 ∧
      ((∀ k result, h ≠ .outcome k result) →
        l.outstanding.length ≤ (l.step strategy h).outstanding.length) := by
  rcases l.step_input strategy h with ⟨i, hi, hh⟩ | ⟨-, ha, -⟩
  · obtain ⟨rest, hperm, hcalls⟩ := hh.calls
    have hlen := hperm.length_eq
    rw [List.length_append, calls_length] at hlen
    have hlen' := congrArg List.length hcalls
    rw [List.length_append, calls_length] at hlen'
    constructor
    · have : i.call?.toList.length ≤ 1 := by cases i.call? <;> simp
      omega
    · intro hn
      rw [input?_call? hi hn] at hlen
      simp only [Option.toList_none, List.length_nil] at hlen
      omega
  · rw [ha.outstanding]
    exact ⟨Nat.le_succ _, fun _ => Nat.le_refl _⟩

/-- What the task does to the selector. -/
theorem step_operation (strategy : Strategy) (l : Life) (hs : ∀ s, h ≠ .select s) :
    ∃ o : Option Selector.Operation,
      (l.step strategy h).selector = o.elim l.selector l.selector.apply := by
  rcases l.step_input strategy h with ⟨i, -, hh⟩ | ⟨-, -, hsel⟩
  · exact ⟨_, hh.selector.trans (Turn.handle_selector _ _ _)⟩
  · exact ⟨none, hsel hs⟩

end

end Life

/-! ## Requests on their way -/

/-- How far a request has come. -/
inductive Way where
  /-- It has not been sent. -/
  | waiting
  /-- It is on its way in the connection, under a name. -/
  | away (t : Token)
  | back (result : Except ConnectionError Response)
deriving DecidableEq

/-- Where a request is whose send does this next. -/
def Move.way (t : Token) : Move → Way
  | .finish result => .back result
  | _ => .away t

/-- A task with its connection. -/
structure Client where
  /-- The task, with the selector as it saw it last. -/
  life : Life
  /-- The connection, with the selector that both share. -/
  traffic : Traffic
  /-- How far the requests of the task have come that have no outcome. -/
  ways : List Way
  /-- The clock, in milliseconds. -/
  now : Nat

/-- What can happen.  A number that is too high means nothing. -/
inductive Occurrence where
  /-- Something happens to the task, other than that it takes in an outcome. -/
  | task (h : Happening)
  /-- The task takes in the result of a request that is back. -/
  | told (i : Nat)
  /-- A request is sent through the connection. -/
  | launch (i : Nat)
  /-- The turn of a request at the link may have come. -/
  | turn (i : Nat)
  /-- The member that was dialed for a request has accepted or refused a connection. -/
  | dialed (i : Nat) (accepted : Bool)
  /-- The member that carries a request has answered, or its connection has failed, or the
      connection to the cluster has waited long enough. -/
  | answered (i : Nat) (result : Except ConnectionError Response)
  /-- The task has waited long enough for a request, and gives it up. -/
  | late (i : Nat) (limit : Duration)
  /-- Others do something to the selector. -/
  | select (o : Selector.Operation)
  /-- Time passes. -/
  | pass (millis : Nat)

namespace Client

/-- A task that has just been spawned, with a new connection. -/
def initial (clientId : String) (strategy : SelectionStrategy) (servers : List Address) : Client :=
  let traffic := Traffic.initial strategy servers
  { life := .born clientId traffic.selector, traffic, ways := [], now := 0 }

/-- The task, with the selector as it is. -/
def task (C : Client) : Life := { C.life with selector := C.traffic.selector }

/-- Nothing is left to do at this instant: the task has taken in all commands and results, and all
    requests are on their way. -/
def idle (C : Client) : Bool :=
  C.life.commands.isEmpty && C.ways.all fun w => match w with | .away _ => true | _ => false

/-- Something happens to the task, while its requests are at `ways`. -/
def act (strategy : Strategy) (h : Happening) (ways : List Way) (C : Client) : Client :=
  let l := C.task.step strategy h
  { C with
    life := l
    traffic := { C.traffic with selector := l.selector }
    ways := ways ++ List.replicate (l.outstanding.length - ways.length) .waiting }

/-- Something happens to a send of the connection, for the `i`-th request. -/
def go (i : Nat) (p : Passage) (C : Client) : Client :=
  { C with
    traffic := C.traffic.pass p
    ways := C.ways.set i ((C.traffic.cluster.handle C.traffic.selector p).move.way p.token) }

/-- The `i`-th request, which is on its way, is given up. -/
def giveUp (i : Nat) (t : Token) (e : ConnectionError) (C : Client) : Client :=
  { C with traffic := C.traffic.pass (.abandon t), ways := C.ways.set i (.back (.error e)) }

/-- Something happens to a request that is on its way. -/
def goOn (i : Nat) (p : Token → Passage) (C : Client) : Client :=
  match C.ways[i]? with
  | some (.away t) => C.go i (p t)
  | _ => C

/-- What comes of an occurrence. -/
def step (strategy : Strategy) (C : Client) : Occurrence → Client
  | .task (.outcome _ _) | .task (.select _) => C
  | .task h => C.act strategy h C.ways
  | .told i =>
    match C.ways[i]?, C.life.stopped with
    | some (.back result), false => C.act strategy (.outcome i result) (C.ways.eraseIdx i)
    | _, _ => C
  | .launch i =>
    match C.ways[i]? with
    | some .waiting => C.go i (.start C.traffic.begun)
    | _ => C
  | .turn i => C.goOn i .turn
  | .dialed i accepted => C.goOn i fun t => .dialed t accepted
  | .answered i result => C.goOn i fun t => .answered t result
  | .late i limit =>
    match C.ways[i]?, C.life.outstanding[i]? with
    | some (.away t), some x => C.giveUp i t (lateAnswer x.errand.request limit)
    | _, _ => C
  | .select o => { C with traffic := C.traffic.step (.select o) }
  | .pass millis => if C.idle then { C with now := C.now + millis } else C

/-- One occurrence after another. -/
def run (strategy : Strategy) (C : Client) (os : List Occurrence) : Client :=
  os.foldl (step strategy) C

section
variable {strategy : Strategy}

theorem run_append (C : Client) (os os' : List Occurrence) :
    C.run strategy (os ++ os') = (C.run strategy os).run strategy os' :=
  List.foldl_append

/-- **What every occurrence keeps is kept.** -/
theorem run_of_step {P : Client → Prop} (hP : ∀ C o, P C → P (C.step strategy o)) {C : Client}
    (hC : P C) (os : List Occurrence) : P (C.run strategy os) := by
  induction os generalizing C with
  | nil => exact hC
  | cons o rest ih => exact ih (hP C o hC)

end

/-! ## What holds at any time -/

/-- The connection is sound, the task is in a phase, every request without an outcome is somewhere,
    and every send in the connection belongs to a request. -/
structure Sound (C : Client) : Prop where
  traffic : C.traffic.Sound
  phase : ∃ p, C.task.InPhase p
  length : C.ways.length = C.life.outstanding.length
  owned : ∀ t st, C.traffic.cluster.stage? t = some st → .away t ∈ C.ways

section
variable {strategy : Strategy} {C : Client}

theorem initial_sound (clientId : String) (strategy : SelectionStrategy) (servers : List Address) :
    (initial clientId strategy servers).Sound where
  traffic := Traffic.initial_sound strategy servers
  phase := ⟨_, Life.born_inPhase _ _⟩
  length := rfl
  owned := by intro t st h; cases h

theorem act_sound (h : C.Sound) {e : Happening} (hs : ∀ s, e ≠ .select s) {ways : List Way}
    (hlen : ways.length ≤ (C.task.step strategy e).outstanding.length)
    (hown : ∀ t, .away t ∈ C.ways → .away t ∈ ways) : (C.act strategy e ways).Sound := by
  obtain ⟨p, hp⟩ := h.phase
  obtain ⟨o, ho⟩ := C.task.step_operation strategy hs
  refine ⟨?_, ?_, ?_, fun t st hst => ?_⟩
  · show Traffic.Sound { C.traffic with selector := (C.task.step strategy e).selector }
    rw [ho]
    cases o with
    | none => exact h.traffic
    | some o => exact h.traffic.step (.select o)
  · exact Life.step_inPhase hp e
  · show (ways ++ List.replicate _ Way.waiting).length = _
    rw [List.length_append, List.length_replicate]
    exact Nat.add_sub_cancel' hlen
  · exact List.mem_append_left _ (hown t (h.owned t st hst))

/-- The requests other than the `i`-th are where they were. -/
theorem mem_set_of_away {ways : List Way} {i : Nat} {w : Way} {u : Token}
    (hi : ways[i]? ≠ some (.away u)) (hu : .away u ∈ ways) : .away u ∈ ways.set i w := by
  obtain ⟨j, hj⟩ := List.mem_iff_getElem?.1 hu
  refine List.mem_iff_getElem?.2 ⟨j, ?_⟩
  rw [List.getElem?_set_ne, hj]
  rintro rfl
  exact hi hj

/-- What becomes of the connection. -/
theorem go_traffic {i : Nat} {p : Passage} (ha : C.traffic.allows p = true) :
    (C.go i p).traffic.cluster = (C.traffic.cluster.handle C.traffic.selector p).cluster ∧
      (C.go i p).traffic.selector = (C.traffic.cluster.handle C.traffic.selector p).selector := by
  show (C.traffic.pass p).cluster = _ ∧ (C.traffic.pass p).selector = _
  rw [Traffic.pass_of_allows ha]
  exact ⟨rfl, rfl⟩

/-- A request whose send is not over is on its way. -/
theorem way_of_stage {p : Passage} {st : Stage}
    (h : (C.traffic.cluster.handle C.traffic.selector p).cluster.stage? p.token = some st) :
    (C.traffic.cluster.handle C.traffic.selector p).move.way p.token = .away p.token := by
  have hleaves := C.traffic.cluster.handle_leaves C.traffic.selector p
  cases hm : (C.traffic.cluster.handle C.traffic.selector p).move with
  | finish result =>
    exact absurd ((hleaves.finished _ hm).symm.trans h) (Option.some_ne_none st).symm
  | _ => rfl

theorem go_sound (h : C.Sound) {i : Nat} {p : Passage} (ha : C.traffic.allows p = true)
    (hi : C.ways[i]? = some (.away p.token) ∨ C.ways[i]? = some .waiting) : (C.go i p).Sound := by
  obtain ⟨q, hq⟩ := h.phase
  refine ⟨h.traffic.pass p, ⟨q, hq.fits, hq.owes⟩, ?_, fun u st hst => ?_⟩
  · show (C.ways.set i _).length = _
    rw [List.length_set]
    exact h.length
  · rw [(go_traffic ha).1] at hst
    have hleaves := C.traffic.cluster.handle_leaves C.traffic.selector p
    by_cases hu : u = p.token
    · subst hu
      have hlt : i < C.ways.length := by
        rcases hi with hi | hi <;> exact (List.getElem?_eq_some_iff.1 hi).1
      show .away p.token ∈ C.ways.set i _
      rw [way_of_stage hst]
      exact List.mem_set hlt _
    · refine mem_set_of_away ?_ (h.owned u st (hleaves.others u hu ▸ hst))
      rcases hi with hi | hi <;> rw [hi]
      · intro he
        exact hu (Way.away.inj (Option.some.inj he)).symm
      · intro he
        cases he

theorem giveUp_sound (h : C.Sound) {i : Nat} {t : Token} (hi : C.ways[i]? = some (.away t))
    (e : ConnectionError) : (C.giveUp i t e).Sound := by
  obtain ⟨q, hq⟩ := h.phase
  refine ⟨h.traffic.pass (.abandon t), ⟨q, hq.fits, hq.owes⟩, ?_, fun u st hst => ?_⟩
  · show (C.ways.set i _).length = _
    rw [List.length_set]
    exact h.length
  · have hst : (C.traffic.cluster.abandon t).1.stage? u = some st := hst
    rw [Cluster.abandon_stage?] at hst
    split at hst
    · cases hst
    · next hu =>
      refine mem_set_of_away ?_ (h.owned u st hst)
      rw [hi]
      intro he
      exact hu (Way.away.inj (Option.some.inj he)).symm

theorem goOn_sound (h : C.Sound) (i : Nat) {p : Token → Passage} (hp : ∀ t, (p t).token = t)
    (ha : ∀ t, C.traffic.allows (p t) = true) : (C.goOn i p).Sound := by
  unfold goOn
  split
  · next t hi => exact go_sound h (ha t) (.inl (by rw [hp]; exact hi))
  · exact h

/-- What happens to the task is neither an outcome nor a change of the selector. -/
theorem step_task (strategy : Strategy) (C : Client) (e : Happening) :
    C.step strategy (.task e) = C ∨
      C.step strategy (.task e) = C.act strategy e C.ways ∧
        (∀ k result, e ≠ .outcome k result) ∧ ∀ s, e ≠ .select s := by
  cases e with
  | outcome | select => exact .inl rfl
  | _ => refine .inr ⟨rfl, fun _ _ he => ?_, fun _ he => ?_⟩ <;> cases he

/-- **Whatever happens, a client is sound.** -/
theorem step_sound (h : C.Sound) (o : Occurrence) : (C.step strategy o).Sound := by
  cases o with
  | task e =>
    rcases C.step_task strategy e with he | ⟨he, ho, hs⟩ <;> rw [he]
    · exact h
    · refine act_sound h hs ?_ fun _ => id
      rw [h.length]
      exact (C.task.step_outstanding_le strategy e).2 ho
  | told i =>
    simp only [step]
    split
    · next result hi _ =>
      refine act_sound h (fun s he => by cases he) ?_ fun t ht => ?_
      · have hle := (C.task.step_outstanding_le strategy (.outcome i result)).1
        have hlt := (List.getElem?_eq_some_iff.1 hi).1
        have hlen : C.ways.length = C.task.outstanding.length := h.length
        rw [List.length_eraseIdx_of_lt hlt]
        omega
      · obtain ⟨j, hj⟩ := List.mem_iff_getElem?.1 ht
        rw [List.mem_eraseIdx_iff_getElem?]
        refine ⟨j, ?_, hj⟩
        rintro rfl
        cases hi.symm.trans hj
    · exact h
  | launch i =>
    simp only [step]
    split
    · next hi => exact go_sound h (by simp [Traffic.allows]) (.inr hi)
    · exact h
  | turn i => exact goOn_sound h i (fun _ => rfl) fun _ => rfl
  | dialed i accepted => exact goOn_sound h i (fun _ => rfl) fun _ => rfl
  | answered i result => exact goOn_sound h i (fun _ => rfl) fun _ => rfl
  | late i limit =>
    simp only [step]
    split
    · next hi _ => exact giveUp_sound h hi _
    · exact h
  | select o =>
    obtain ⟨q, hq⟩ := h.phase
    exact ⟨h.traffic.step (.select o), ⟨q, hq.fits, hq.owes⟩, h.length, h.owned⟩
  | pass millis =>
    simp only [step]
    split
    · exact ⟨h.traffic, h.phase, h.length, h.owned⟩
    · exact h

theorem run_sound (h : C.Sound) (os : List Occurrence) : (C.run strategy os).Sound :=
  run_of_step (P := Sound) (fun _ o hC => step_sound hC o) h os

end

end Client

end ClusterSession
