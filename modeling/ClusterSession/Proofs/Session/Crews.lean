/-
  ClusterSession: tasks that share a selector.

  Any number of tasks use one selector, and perhaps one state; the application, and the
  connections of the tasks, use the selector too.  Whatever can happen may happen at any
  time, to any task.

  * `Crew`: the tasks, the states, the selector, and a log of what was handled and of
    what was done to the selector.
  * `Crew.Event`: what can happen; `Crew.step` is what comes of it.
  * `run_paid`: requests that are sent again at once are paid for by leaders that are
    set.  The leader that is known is the credit that is left.
  * `run_spent`: a failed heartbeat uses it up, and until a leader is set or a heartbeat
    succeeds, no other is followed by one at once.
  * `resends_paid`: both, for any crew at any time.
-/
import ClusterSession.Proofs.Session.Inputs
import ClusterSession.Proofs.Session.Discipline

namespace ClusterSession

namespace Life

section
variable {l l' : Life} {i : Input}

/-- The task is steady. -/
def Steady (l : Life) : Prop := l.turn.Steady l.calls

theorem Alike.steady (h : Alike l l') (hl : l.Steady) : l'.Steady := by
  have hcalls : l'.calls = l.calls := by unfold calls; rw [h.outstanding]
  have hq : l.turn.Quiet l'.turn :=
    { registering := congrArg Session.registering h.session
      registerTimer := .inl (congrArg Session.registerTimer h.session)
      keepAliveTimer := .inl (congrArg Session.keepAliveTimer h.session)
      status := fun hs he => hs (h.status.symm.trans he)
      calls := .inl rfl }
  unfold Steady
  rw [hcalls]
  exact hq.steady hl

theorem Handles.steady {strategy : Strategy} (h : l.Handles strategy l' i) (hl : l.Steady) :
    l'.Steady := by
  obtain ⟨rest, hperm, hcalls⟩ := h.calls
  have hpending : l.turn.Steady (i.call?.toList ++ rest) := hl.perm hperm
  unfold Steady
  rw [hcalls]
  exact (Turn.handle_steady strategy hpending).next h.session h.state rfl

/-- A failed heartbeat of the task is not followed by another at once. -/
structure Spent (l : Life) : Prop where
  settled : l.turn.Settled
  spent : l.turn.Spent

theorem Alike.spent (h : Alike l l') (hs : l'.selector = l.selector) (hl : l.Spent) : l'.Spent := by
  refine ⟨⟨?_, ?_, ?_⟩, ?_⟩
  · show l'.session.registering = false
    rw [h.session]; exact hl.settled.registering
  · show l'.session.registerTimer = none
    rw [h.session]; exact hl.settled.registerTimer
  · show l'.state.status ≠ none
    rw [h.status]; exact hl.settled.status
  · show l'.selector.leader = none ∨ l'.session.closing = true ∨
      l'.state.status.any SessionStatus.isTerminal = true
    rw [hs, h.session, h.status]
    exact hl.spent

/-- A heartbeat that fails is the last that is followed by another at once, and it stays so until
    one succeeds. -/
theorem Handles.spent {strategy : Strategy} (h : l.Handles strategy l' i) (hl : l.Steady)
    (hi : (∃ result, i = .event (.keptAlive result) ∧
        Outcome.of (result.map (·.toVerdict)) ≠ .ok) ∨
      l.Spent ∧ i.beat? ≠ some .ok) : l'.Spent := by
  obtain ⟨rest, hperm, -⟩ := h.calls
  have hset : l.turn.Settled := by
    rcases hi with ⟨result, rfl, -⟩ | ⟨hs, -⟩
    · exact hl.beats (.inl (List.mem_append_left _ (hperm.mem_iff.2 List.mem_cons_self)))
    · exact hs.settled
  have hr : i.call? ≠ some .register := by
    intro hr
    have hcount := (hl.perm hperm).registers
    rw [hset.registering, hr] at hcount
    simp at hcount
  have hset' := (Turn.handle_settled hset strategy hr).1
  have hspent' : (l.turn.handle strategy i).Spent := by
    rcases hi with ⟨result, rfl, hf⟩ | ⟨hs, hb⟩
    · exact Turn.spent_of_failed hset.status hf
    · exact hs.spent.handle strategy hr hb
  refine ⟨⟨?_, ?_, ?_⟩, ?_⟩
  · exact (congrArg Session.registering h.session).trans hset'.registering
  · exact (congrArg Session.registerTimer h.session).trans hset'.registerTimer
  · show l'.state.status ≠ none
    rw [h.state]; exact hset'.status
  · show l'.selector.leader = none ∨ l'.session.closing = true ∨ l'.state.isEnded = true
    rw [h.selector, h.session, h.state]
    exact hspent'

end

end Life

/-! ## Crews -/

/-- An entry of the log. -/
inductive Crew.Entry (ι : Type) where
  /-- A task has handled an input, done something to the selector, and sent requests. -/
  | handled (m : ι) (i : Input) (o : Option Selector.Operation) (sent : List Errand)
  /-- Others have done something to the selector. -/
  | others (o : Selector.Operation)

namespace Crew.Entry

section
variable {ι : Type}

/-- What was done to the selector. -/
def operation? : Entry ι → Option Selector.Operation
  | handled _ _ o _ => o
  | others o => some o

/-- A leader was set. -/
def setsLeader (e : Entry ι) : Bool := e.operation?.any (·.setsLeader)

/-- The requests that were sent again at once: while a failed outcome was handled, and not to
    register. -/
def resent : Entry ι → List Errand
  | handled _ i _ sent => if i.failed then sent.filter (·.method ≠ .register) else []
  | others _ => []

variable [DecidableEq ι] (m : ι)

/-- Another than the task has set a leader. -/
def interferes : Entry ι → Bool
  | e@(handled n _ _ _) => n ≠ m && e.setsLeader
  | e@(others _) => e.setsLeader

/-- The outcome of a heartbeat of the task. -/
def beat? : Entry ι → Option Outcome
  | handled n i _ _ => if n = m then i.beat? else none
  | others _ => none

/-- A heartbeat of the task has failed. -/
def failsBeat (e : Entry ι) : Bool := (e.beat? m).any (· ≠ .ok)

end

end Crew.Entry

/-- The strategies of some tasks, and the places of their states; tasks at one place share it. -/
structure Roster (ι σ : Type) where
  strategy : ι → Strategy
  place : ι → σ

/-- Some tasks with the selector that they share. -/
structure Crew (ι σ : Type) where
  /-- The tasks, each with its state and the selector as it saw them last. -/
  lives : ι → Life
  states : σ → SessionState
  selector : Selector
  log : List (Crew.Entry ι)

namespace Crew

/-- What can happen. -/
inductive Event (ι : Type) where
  /-- Something happens to a task. -/
  | task (m : ι) (h : Happening)
  /-- Others do something to the selector. -/
  | others (o : Selector.Operation)

section
variable {ι σ : Type} [DecidableEq ι] [DecidableEq σ] (R : Roster ι σ)

/-- Tasks that have just been spawned, each on a state. -/
def spawned (states : σ → SessionState) (selector : Selector) : Crew ι σ where
  lives m :=
    { Life.born (states (R.place m)).clientId selector with state := states (R.place m) }
  states := states
  selector := selector
  log := []

variable (C : Crew ι σ)

/-- A task, with its state and the selector as they are. -/
def life (m : ι) : Life :=
  { C.lives m with state := C.states (R.place m), selector := C.selector }

/-- A task has moved on. -/
def put (m : ι) (l : Life) : Crew ι σ :=
  { C with
    lives := fun n => if n = m then l else C.lives n
    states := fun p => if p = R.place m then l.state else C.states p
    selector := l.selector }

/-- The log goes on. -/
def note (e : Entry ι) : Crew ι σ := { C with log := C.log ++ [e] }

/-- Something happens to a task. -/
def task (m : ι) (h : Happening) : Crew ι σ :=
  let l := C.life R m
  let l' := l.step (R.strategy m) h
  match l.input? h with
  | some i =>
    (C.put R m l').note
      (.handled m i (l.turn.operation? i) ((l'.sent.drop l.sent.length).map Sent.errand))
  | none => C.put R m l'

/-- What comes of an event.  The selector is changed by tasks, and by others. -/
def step : Event ι → Crew ι σ
  | .task _ (.select _) => C
  | .task m h => C.task R m h
  | .others o => { C with selector := C.selector.apply o }.note (.others o)

/-- One event after another. -/
def run (es : List (Event ι)) : Crew ι σ := es.foldl (step R) C

end

section
variable {ι σ : Type} [DecidableEq ι] [DecidableEq σ] {R : Roster ι σ} {C : Crew ι σ}

/-! ## What an event can be -/

/-- The entry for an input that a task handles. -/
def handled (R : Roster ι σ) (C : Crew ι σ) (m : ι) (i : Input) : Entry ι :=
  .handled m i ((C.life R m).turn.operation? i)
    ((C.life R m).turn.handle (R.strategy m) i).errands

/-- **In an event, a task handles an input, or others do something to the selector**, or a task
    moves on without an input, or nothing happens. -/
theorem step_cases (R : Roster ι σ) (C : Crew ι σ) (e : Event ι) :
    (∃ m i l, (C.life R m).Handles (R.strategy m) l i ∧
      C.step R e = (C.put R m l).note (C.handled R m i)) ∨
    (∃ m l, Life.Alike (C.life R m) l ∧ l.selector = C.selector ∧ C.step R e = C.put R m l) ∨
    (∃ o, C.step R e = { C with selector := C.selector.apply o }.note (.others o)) ∨
    C.step R e = C := by
  cases e with
  | others o => exact .inr (.inr (.inl ⟨o, rfl⟩))
  | task m h =>
    by_cases hsel : ∃ s, h = .select s
    · obtain ⟨s, rfl⟩ := hsel
      exact .inr (.inr (.inr rfl))
    · have hstep : C.step R (.task m h) = C.task R m h := by
        cases h <;> first | rfl | exact absurd ⟨_, rfl⟩ hsel
      rw [hstep]
      unfold task
      dsimp only
      rcases (C.life R m).step_input (R.strategy m) h with ⟨i, hi, hh⟩ | ⟨hi, ha, hs⟩
      · rw [hi]
        exact .inl ⟨m, i, _, hh, by rw [handled, ← hh.sent]⟩
      · rw [hi]
        exact .inr (.inl ⟨m, _, ha, hs fun s he => hsel ⟨s, he⟩, rfl⟩)

/-- The task that has moved on. -/
theorem put_life_self (R : Roster ι σ) (C : Crew ι σ) (m : ι) (l : Life) :
    (C.put R m l).life R m = l := by
  simp [life, put]

/-- Another task sees no change but that of a state that it shares. -/
theorem put_life_of_ne {m n : ι} (hn : n ≠ m) (l : Life) :
    ((C.put R m l).life R n).session = (C.life R n).session ∧
      ((C.put R m l).life R n).calls = (C.life R n).calls ∧
      ∀ P : SessionState → Prop, (P (C.life R m).state → P l.state) →
        P (C.life R n).state → P ((C.put R m l).life R n).state := by
  refine ⟨by simp [life, put, hn], by simp [life, put, hn, Life.calls], fun P hP hs => ?_⟩
  simp only [life, put]
  split
  · next hp =>
    refine hP ?_
    rw [show (C.life R m).state = (C.life R n).state by simp [life, hp]]
    exact hs
  · exact hs

/-! ## Steady tasks -/

/-- Every task is steady. -/
def Steady (R : Roster ι σ) (C : Crew ι σ) : Prop := ∀ m, (C.life R m).Steady

omit [DecidableEq ι] [DecidableEq σ] in
theorem spawned_steady (R : Roster ι σ) (states : σ → SessionState) (s : Selector) :
    (spawned R states s).Steady R := by
  intro m
  refine ⟨rfl, fun _ => rfl, fun hb => ?_⟩
  rcases hb with hb | hb <;> cases hb

theorem put_steady (h : C.Steady R) {m : ι} {l : Life} (hl : l.Steady)
    (hs : (C.life R m).state.status ≠ none → l.state.status ≠ none) : (C.put R m l).Steady R := by
  intro n
  by_cases hn : n = m
  · subst hn
    rw [put_life_self]
    exact hl
  · obtain ⟨hsession, hcalls, hstate⟩ := C.put_life_of_ne (R := R) hn l
    have hq : (C.life R n).turn.Quiet ((C.put R m l).life R n).turn :=
      ⟨congrArg Session.registering hsession, .inl (congrArg Session.registerTimer hsession),
        .inl (congrArg Session.keepAliveTimer hsession), hstate (·.status ≠ none) hs, .inl rfl⟩
    unfold Life.Steady
    rw [hcalls]
    exact hq.steady (h n)

theorem step_steady (h : C.Steady R) (e : Event ι) : (C.step R e).Steady R := by
  rcases C.step_cases R e with ⟨m, i, l, hh, he⟩ | ⟨m, l, ha, -, he⟩ | ⟨o, he⟩ | he
  · rw [he]
    exact put_steady h (hh.steady (h m)) fun hs => by
      rw [hh.state]
      exact Turn.handle_status_ne_none _ hs
  · rw [he]
    exact put_steady h (ha.steady (h m)) (by rw [ha.status]; exact id)
  · rw [he]
    exact fun m => Turn.Quiet.steady (t := (C.life R m).turn)
      ⟨rfl, .inl rfl, .inl rfl, id, .inl rfl⟩ (h m)
  · rw [he]
    exact h

/-! ## The log -/

/-- The selector is what the operations in the log have made of it. -/
def Logged (start : Selector) (C : Crew ι σ) : Prop :=
  C.selector = (C.log.filterMap Entry.operation?).foldl Selector.apply start

omit [DecidableEq ι] [DecidableEq σ] in
theorem Logged.note {start : Selector} (h : C.Logged start) {C' : Crew ι σ} {e : Entry ι}
    (hl : C'.log = C.log ++ [e])
    (hs : C'.selector = e.operation?.elim C.selector C.selector.apply) : C'.Logged start := by
  unfold Logged at h ⊢
  rw [hl, hs, List.filterMap_append, List.foldl_append, ← h]
  cases he : e.operation? with
  | none => simp [he]
  | some o => simp [he]

/-- **The log tells all that was done to the selector.** -/
theorem step_logged {start : Selector} (h : C.Logged start) (e : Event ι) :
    (C.step R e).Logged start := by
  rcases C.step_cases R e with ⟨m, i, l, hh, he⟩ | ⟨m, l, -, hs, he⟩ | ⟨o, he⟩ | he
  · rw [he]
    exact h.note (e := C.handled R m i) rfl (hh.selector.trans (Turn.handle_selector _ _ _))
  · rw [he]
    exact hs.trans h
  · rw [he]
    exact h.note (e := .others o) rfl rfl
  · rw [he]
    exact h

/-! ## Credit -/

/-- The requests that were sent again at once, with the leader if one is known, are no more than the
    leaders that were set, with the one that was known at the start. -/
def Paid (start : Selector) (C : Crew ι σ) : Prop :=
  (C.log.flatMap Entry.resent).length + C.selector.known ≤
    C.log.countP Entry.setsLeader + start.known

omit [DecidableEq ι] [DecidableEq σ] in
/-- An entry that is paid for. -/
theorem Paid.note {start : Selector} (h : C.Paid start) {C' : Crew ι σ} {e : Entry ι}
    (hl : C'.log = C.log ++ [e])
    (he : e.resent.length + C'.selector.known ≤
      C.selector.known + e.setsLeader.toNat) : C'.Paid start := by
  unfold Paid at h ⊢
  have hr : ([e].flatMap Entry.resent).length = e.resent.length := by simp
  have hs : [e].countP Entry.setsLeader = e.setsLeader.toNat := by
    cases hb : e.setsLeader <;> simp [hb]
  rw [hl, List.flatMap_append, List.length_append, List.countP_append, hr, hs]
  omega

omit [DecidableEq ι] [DecidableEq σ] in
theorem spawned_paid (R : Roster ι σ) (states : σ → SessionState) (s : Selector) :
    (spawned R states s).Paid s :=
  Nat.le_refl (0 + s.known)

omit [DecidableEq ι] [DecidableEq σ] in
theorem handled_resent (R : Roster ι σ) (C : Crew ι σ) (m : ι) (i : Input) :
    (C.handled R m i).resent.length =
      if i.failed then ((C.life R m).turn.handle (R.strategy m) i).renewals else 0 := by
  show (if i.failed then ((C.life R m).turn.handle (R.strategy m) i).errands.filter
    (·.method ≠ .register) else []).length = _
  split
  · rw [Turn.renewals, Turn.calls, List.countP_map, List.countP_eq_length_filter]
    rfl
  · rfl

theorem step_paid {start : Selector} (h : C.Paid start) (e : Event ι) : (C.step R e).Paid start := by
  rcases C.step_cases R e with ⟨m, i, l, hh, he⟩ | ⟨m, l, -, hs, he⟩ | ⟨o, he⟩ | he
  · rw [he]
    refine h.note rfl ?_
    have hp := (C.life R m).turn.handle_paid (R.strategy m) i
    rw [← hh.selector] at hp
    rw [handled_resent]
    have hzero : (C.life R m).turn.renewals = 0 := rfl
    rw [hzero, Nat.zero_add] at hp
    exact hp
  · rw [he]
    show (C.log.flatMap Entry.resent).length + l.selector.known ≤ _
    rw [hs]
    exact h
  · rw [he]
    refine h.note rfl ?_
    rw [show (Entry.others o : Entry ι).resent = [] from rfl, List.length_nil, Nat.zero_add]
    exact C.selector.apply_known_le o
  · rw [he]
    exact h

/-! ## Failed heartbeats -/

/-- A heartbeat of the task has failed, and since then none has succeeded, and nobody else has set
    a leader. -/
def Waned (m : ι) (log : List (Entry ι)) : Prop :=
  ∃ a e b, log = a ++ e :: b ∧ e.failsBeat m = true ∧
    ∀ x ∈ b, x.beat? m ≠ some .ok ∧ x.interferes m = false

omit [DecidableEq σ] in
theorem waned_concat {m : ι} {log : List (Entry ι)} {x : Entry ι} (h : Waned m (log ++ [x])) :
    x.failsBeat m = true ∨ Waned m log ∧ x.beat? m ≠ some .ok ∧ x.interferes m = false := by
  obtain ⟨a, e, b, heq, he, hb⟩ := h
  rcases List.eq_nil_or_concat b with rfl | ⟨b, y, rfl⟩
  · obtain ⟨rfl, hx⟩ := List.append_inj' heq rfl
    cases hx
    exact .inl he
  · rw [List.concat_eq_append] at heq hb
    rw [← List.cons_append, ← List.append_assoc] at heq
    obtain ⟨rfl, hx⟩ := List.append_inj' heq rfl
    cases hx
    have hx := hb x (by simp)
    exact .inr ⟨⟨a, e, b, rfl, he, fun z hz => hb z (by simp [hz])⟩, hx⟩

omit [DecidableEq σ] in
/-- The last entry of a log. -/
theorem once_concat {m : ι} {log : List (Entry ι)} {x : Entry ι}
    (h : ∀ p e c, log = p ++ e :: c → Waned m p → e.failsBeat m = true → e.resent = [])
    (hx : Waned m log → x.failsBeat m = true → x.resent = []) :
    ∀ p e c, log ++ [x] = p ++ e :: c → Waned m p → e.failsBeat m = true → e.resent = [] := by
  intro p e c heq hw hf
  rcases List.eq_nil_or_concat c with rfl | ⟨c, y, rfl⟩
  · obtain ⟨rfl, he⟩ := List.append_inj' heq rfl
    cases he
    exact hx hw hf
  · rw [List.concat_eq_append, ← List.cons_append, ← List.append_assoc] at heq
    obtain ⟨rfl, -⟩ := List.append_inj' heq rfl
    exact h p e c rfl hw hf

/-- A failed heartbeat that follows another is not followed by one at once. -/
structure Sparing (R : Roster ι σ) (C : Crew ι σ) : Prop where
  steady : C.Steady R
  spent : ∀ m, Waned m C.log → (C.life R m).Spent
  once : ∀ m p e c, C.log = p ++ e :: c → Waned m p → e.failsBeat m = true → e.resent = []

theorem put_spent_of_ne {m n : ι} (hn : n ≠ m) {l : Life} (h : (C.life R n).Spent)
    (hs : (C.life R m).state.status ≠ none → l.state.status ≠ none)
    (he : (C.life R m).state.isEnded = true → l.state.isEnded = true)
    (hl : C.selector.leader = none → l.selector.leader = none) : ((C.put R m l).life R n).Spent := by
  obtain ⟨hsession, -, hstate⟩ := C.put_life_of_ne (R := R) hn l
  refine ⟨⟨?_, ?_, ?_⟩, ?_⟩
  · show ((C.put R m l).life R n).session.registering = false
    rw [hsession]; exact h.settled.registering
  · show ((C.put R m l).life R n).session.registerTimer = none
    rw [hsession]; exact h.settled.registerTimer
  · exact hstate (·.status ≠ none) hs h.settled.status
  · refine h.spent.imp hl (Or.imp (fun hc => ?_) (hstate (·.isEnded = true) he))
    show ((C.put R m l).life R n).session.closing = true
    rw [hsession]; exact hc

omit [DecidableEq σ] in
/-- What others do is no heartbeat. -/
theorem others_failsBeat (n : ι) (o : Selector.Operation) :
    ¬(Entry.others o : Entry ι).failsBeat n = true := Bool.false_ne_true

omit [DecidableEq σ] in
/-- A failed heartbeat is an input of the task itself. -/
theorem handled_failsBeat {m n : ι} {i : Input} (h : (C.handled R m i).failsBeat n = true) :
    m = n ∧ ∃ result, i = .event (.keptAlive result) ∧
      Outcome.of (result.map (·.toVerdict)) ≠ .ok := by
  have h : (if m = n then i.beat? else none).any (· ≠ .ok) = true := h
  split at h
  · next hm =>
    refine ⟨hm, ?_⟩
    rcases i with (w | w) | (⟨id, purpose⟩ | ⟨attempt, result⟩ | result | result)
    · cases h
    · cases h
    · cases h
    · cases h
    · exact ⟨result, rfl, by simpa [Input.beat?] using h⟩
    · cases h
  · cases h

/-- **A failed heartbeat that follows another is not followed by one at once**, whatever happens. -/
theorem step_sparing (h : C.Sparing R) (e : Event ι) : (C.step R e).Sparing R := by
  have hsteady := step_steady h.steady e
  rcases C.step_cases R e with ⟨m, i, l, hh, he⟩ | ⟨m, l, ha, hs, he⟩ | ⟨o, he⟩ | he
  · rw [he] at hsteady ⊢
    refine ⟨hsteady, fun n hw => ?_, fun n p e' c heq hw hf => ?_⟩
    · show ((C.put R m l).life R n).Spent
      have hw := waned_concat hw
      by_cases hn : n = m
      · subst hn
        rw [put_life_self]
        refine hh.spent (h.steady n) (hw.imp (fun hf => (handled_failsBeat hf).2) ?_)
        rintro ⟨hw, hb, -⟩
        refine ⟨h.spent n hw, ?_⟩
        have hb : (if n = n then i.beat? else none) ≠ some .ok := hb
        rwa [if_pos rfl] at hb
      · rcases hw with hf | ⟨hw, -, hi⟩
        · exact absurd (handled_failsBeat hf).1.symm hn
        · refine put_spent_of_ne hn (h.spent n hw) (fun hs => ?_) (fun he => ?_) fun hl => ?_
          · rw [hh.state]; exact Turn.handle_status_ne_none _ hs
          · rw [hh.state]; exact Turn.handle_isEnded _ he
          · have hi : (decide (m ≠ n) && ((C.life R m).turn.operation? i).any (·.setsLeader)) =
                false := hi
            rw [decide_eq_true (Ne.symm hn), Bool.true_and] at hi
            rw [hh.selector, Turn.handle_selector]
            cases ho : (C.life R m).turn.operation? i with
            | none => exact hl
            | some o => exact Selector.apply_leader_of_none hl (by simpa [ho] using hi)
    · refine once_concat (h.once n) (fun hw hf => ?_) p e' c heq hw hf
      obtain ⟨rfl, result, rfl, hfails⟩ := handled_failsBeat hf
      have herrands := (h.spent m hw).spent.errands hfails
      show (if _ then ((C.life R m).turn.onKeptAlive result).errands.filter _ else []) = []
      rw [herrands]
      exact ite_self _
  · rw [he] at hsteady ⊢
    refine ⟨hsteady, fun n hw => ?_, h.once⟩
    by_cases hn : n = m
    · subst hn
      rw [put_life_self]
      exact ha.spent hs (h.spent n hw)
    · refine put_spent_of_ne hn (h.spent n hw) ?_ ?_ ?_
      · rw [ha.status]; exact id
      · unfold SessionState.isEnded
        rw [ha.status]; exact id
      · rw [hs]; exact id
  · rw [he] at hsteady ⊢
    refine ⟨hsteady, fun n hw => ?_, fun n p e' c heq hw hf => ?_⟩
    · obtain ⟨hw, -, hi⟩ := (waned_concat hw).resolve_left (others_failsBeat n o)
      obtain ⟨hset, hsp⟩ := h.spent n hw
      exact ⟨⟨hset.registering, hset.registerTimer, hset.status⟩,
        hsp.imp_left fun hl => Selector.apply_leader_of_none hl hi⟩
    · exact once_concat (h.once n) (fun _ hf => absurd hf (others_failsBeat n o)) p e' c heq hw hf
  · rw [he]
    exact h

/-! ## Any crew -/

theorem run_of_step {P : Crew ι σ → Prop} (hP : ∀ C e, P C → P (C.step R e)) (h : P C)
    (es : List (Event ι)) : P (C.run R es) := by
  induction es generalizing C with
  | nil => exact h
  | cons e rest ih => exact ih (hP C e h)

theorem run_paid {start : Selector} (h : C.Paid start) (es : List (Event ι)) :
    (C.run R es).Paid start :=
  run_of_step (P := Paid start) (fun _ e hC => step_paid hC e) h es

theorem run_logged {start : Selector} (h : C.Logged start) (es : List (Event ι)) :
    (C.run R es).Logged start :=
  run_of_step (P := Logged start) (fun _ e hC => step_logged hC e) h es

theorem run_sparing (h : C.Sparing R) (es : List (Event ι)) : (C.run R es).Sparing R :=
  run_of_step (P := Sparing R) (fun _ e hC => step_sparing hC e) h es

omit [DecidableEq σ] in
theorem spawned_sparing (R : Roster ι σ) (states : σ → SessionState) (s : Selector) :
    (spawned R states s).Sparing R where
  steady := spawned_steady R states s
  spent m hw := by
    obtain ⟨a, e, b, he, -⟩ := hw
    cases a <;> cases he
  once m p e c he := by cases p <;> cases he

end

/-- **Requests sent again at once are paid for by leaders.**  Take any number of tasks, spawned on
    any states, that share a selector, and let anything happen; the log tells all that was done to
    the selector.  The requests that were sent again while a failed outcome was handled are at most
    as many as the leaders that were set, and one more if a leader was known at the start.  Of two
    failed heartbeats of a task, with none between them that has succeeded, and no leader set by
    anybody else, the later one is not followed by a request at once. -/
theorem resends_paid {ι σ : Type} [DecidableEq ι] [DecidableEq σ] (R : Roster ι σ)
    (states : σ → SessionState) (s : Selector) (es : List (Event ι)) :
    let C := (spawned R states s).run R es
    C.selector = (C.log.filterMap Entry.operation?).foldl Selector.apply s ∧
    (C.log.flatMap Entry.resent).length ≤
      C.log.countP Entry.setsLeader + (if s.leader.isSome then 1 else 0) ∧
    ∀ (m : ι) (a b c : List (Entry ι)) (e e' : Entry ι), C.log = a ++ e :: (b ++ e' :: c) →
      e.failsBeat m = true → e'.failsBeat m = true →
      (∀ x ∈ b, x.beat? m ≠ some .ok ∧ x.interferes m = false) → e'.resent = [] := by
  intro C
  have hpaid : C.Paid s := run_paid (spawned_paid R states s) es
  have hsparing : C.Sparing R := run_sparing (spawned_sparing R states s) es
  refine ⟨run_logged (C := spawned R states s) rfl es, ?_, fun m a b c e e' heq he he' hb => ?_⟩
  · have hknown : s.known = if s.leader.isSome then 1 else 0 := by
      unfold Selector.known
      cases s.leader <;> rfl
    rw [← hknown]
    exact Nat.le_trans (Nat.le_add_right _ _) hpaid
  · refine hsparing.once m (a ++ e :: b) e' c (by simp [heq]) ⟨a, e, b, rfl, he, hb⟩ he'

/-- One task registers, and hears of a leader; then two heartbeats fail, one after the other. -/
def mishaps : List (Event Unit) :=
  [.task () .opening, .task () .command,
    .task () (.outcome 0 (.ok (.register (.accept 7 1000 (some ⟨"a", 5000⟩) [])))),
    .task () (.timer 0), .task () (.outcome 0 (.error .connectionClosed)),
    .task () (.outcome 0 (.error .connectionClosed))]

/-- The first failed heartbeat is followed by another at once, and the second is not. -/
theorem resends_paid_mishaps :
    let R : Roster Unit Unit := { strategy := fun _ => StrategyConfig.once.strategy, place := id }
    let C := (spawned R (fun _ => .fresh "c") (.ofServers .any [])).run R mishaps
    ∃ a e e', C.log = a ++ [e, e'] ∧ e.failsBeat () = true ∧ e'.failsBeat () = true ∧
      e.resent.length = 1 ∧ e'.resent = [] := by
  intro R C
  have hlen : C.log.length = 5 := by decide +kernel
  have hlog : C.log = C.log.take 3 ++ [C.log[3], C.log[4]] := by
    have hdrop : C.log.drop 3 = [C.log[3], C.log[4]] := by
      rw [List.drop_eq_getElem_cons (by omega), List.drop_eq_getElem_cons (by omega),
        List.drop_of_length_le (by omega)]
    rw [← hdrop, List.take_append_drop]
  have hfails : C.log[3].failsBeat () = true := by decide +kernel
  have hfails' : C.log[4].failsBeat () = true := by decide +kernel
  have hresent : C.log[3].resent.length = 1 := by decide +kernel
  refine ⟨_, _, _, hlog, hfails, hfails', hresent, ?_⟩
  exact (resends_paid R _ _ mishaps).2.2 () (C.log.take 3) [] [] _ _ hlog hfails hfails'
    fun x hx => absurd hx List.not_mem_nil

end Crew

end ClusterSession
