/-
  ClusterSession: the life of a cluster connection.

  Callers start sends and give them up, members accept and refuse connections and
  answer or do not, and others change the selector.  Whatever can happen may happen at
  any time.

  * `Traffic`: a cluster connection with its selector, and a record of the members that
    have refused a connection.
  * `Occasion`: what can happen; `Traffic.step` is what comes of it, and `Traffic.run` is
    one occasion after another.
  * `Traffic.Sound`, `run_sound`: what holds of every connection at any time.
  * `Cluster.nextCarrier`, `start_dialed`: who carries a request that is alone at the link.
-/
import ClusterSession.Proofs.Cluster.Stages

namespace ClusterSession

/-- A cluster connection among its callers, the members, and others who use its selector. -/
structure Traffic where
  cluster : Cluster
  selector : Selector
  /-- Number of sends so far; they are named in this order. -/
  begun : Nat
  /-- The refusals so far: a send, and the member that has refused it a connection. -/
  refusals : List (Token × Address)

/-- What can happen to a cluster connection. -/
inductive Occasion where
  /-- Something happens to a send. -/
  | passage (p : Passage)
  /-- Others do something to the selector. -/
  | select (o : Selector.Operation)

/-- The refusal that a send meets. -/
def Cluster.refusal? (c : Cluster) : Passage → Option (Token × Address)
  | .dialed t false =>
    match c.stage? t with
    | some (.dialing a _ _) => some (t, a)
    | _ => none
  | _ => none

/-- Only the send itself meets a refusal. -/
theorem Cluster.refusal?_token {c : Cluster} {p : Passage} {x : Token × Address}
    (h : c.refusal? p = some x) : x.1 = p.token := by
  unfold refusal? at h
  split at h
  · split at h
    · exact (congrArg Prod.fst (Option.some.inj h)).symm
    · cases h
  · cases h

namespace Traffic

/-- A connection that has just been made, with a selector over `servers`. -/
def initial (strategy : SelectionStrategy) (servers : List Address) : Traffic :=
  { cluster := .initial, selector := .ofServers strategy servers, begun := 0, refusals := [] }

/-- A send is started once, under the next name. -/
def allows (T : Traffic) : Passage → Bool
  | .start t => t = T.begun
  | _ => true

/-- Something happens to a send. -/
def pass (p : Passage) (T : Traffic) : Traffic :=
  if T.allows p then
    let r := T.cluster.handle T.selector p
    { cluster := r.cluster
      selector := r.selector
      begun := max T.begun (p.token + 1)
      refusals := T.refusals ++ (T.cluster.refusal? p).toList }
  else T

/-- What comes of an occasion. -/
def step (T : Traffic) : Occasion → Traffic
  | .passage p => T.pass p
  | .select o => { T with selector := T.selector.apply o }

/-- One occasion after another. -/
def run (T : Traffic) (os : List Occasion) : Traffic := os.foldl step T

/-- The members that have refused the send a connection. -/
def refusedBy (T : Traffic) (t : Token) : List Address :=
  (T.refusals.filter (·.1 = t)).map (·.2)

theorem pass_of_allows {T : Traffic} {p : Passage} (h : T.allows p = true) :
    T.pass p =
      { cluster := (T.cluster.handle T.selector p).cluster
        selector := (T.cluster.handle T.selector p).selector
        begun := max T.begun (p.token + 1)
        refusals := T.refusals ++ (T.cluster.refusal? p).toList } :=
  if_pos h

/-- **What every occasion keeps is kept.** -/
theorem run_of_step {P : Traffic → Prop} (hP : ∀ T o, P T → P (T.step o)) {T : Traffic} (hT : P T)
    (os : List Occasion) : P (T.run os) := by
  induction os generalizing T with
  | nil => exact hT
  | cons o rest ih => exact ih (hP T o hT)

/-! ## What holds at any time -/

/-- The connection is tidy, the selector is sound, and no send has a name that was not given out. -/
structure Sound (T : Traffic) : Prop where
  tidy : T.cluster.Tidy T.selector
  selector : T.selector.Sound
  named : ∀ t st, T.cluster.stage? t = some st → t < T.begun
  refusals : ∀ x ∈ T.refusals, x.1 < T.begun

section
variable {T : Traffic}

theorem Sound.fresh (h : T.Sound) : T.cluster.stage? T.begun = none := by
  cases hs : T.cluster.stage? T.begun with
  | none => rfl
  | some st => exact absurd (h.named _ st hs) (Nat.lt_irrefl _)

/-- A send is started once. -/
theorem Sound.start_absent (h : T.Sound) {p : Passage} (ha : T.allows p = true) :
    ∀ t, p = .start t → T.cluster.stage? t = none := by
  rintro t rfl
  exact (of_decide_eq_true ha : t = T.begun) ▸ h.fresh

theorem Sound.refusedBy_begun (h : T.Sound) : T.refusedBy T.begun = [] := by
  rw [refusedBy, List.map_eq_nil_iff, List.filter_eq_nil_iff]
  intro x hx
  exact fun he => absurd (of_decide_eq_true he) (Nat.ne_of_lt (h.refusals x hx))

theorem Sound.pass (h : T.Sound) (p : Passage) : (T.pass p).Sound := by
  unfold Traffic.pass
  split
  · next ha =>
    have hold : ∀ u : Token, u < T.begun → u < max T.begun (p.token + 1) :=
      fun _ hu => Nat.lt_of_lt_of_le hu (Nat.le_max_left _ _)
    have hnew : p.token < max T.begun (p.token + 1) :=
      Nat.lt_of_lt_of_le (Nat.lt_succ_self _) (Nat.le_max_right _ _)
    refine ⟨h.tidy.handle (h.start_absent ha), T.cluster.handle_sound _ p h.selector,
      fun t st hs => ?_, fun x hx => ?_⟩
    · by_cases he : t = p.token
      · exact he ▸ hnew
      · exact hold _ (h.named t st (T.cluster.handle_stage_of_ne T.selector p he ▸ hs))
    · rcases List.mem_append.1 hx with hx | hx
      · exact hold _ (h.refusals x hx)
      · rw [Cluster.refusal?_token (Option.mem_toList.1 hx)]
        exact hnew
  · exact h

theorem Sound.step (h : T.Sound) (o : Occasion) : (T.step o).Sound := by
  cases o with
  | passage p => exact h.pass p
  | select o =>
    exact
      { tidy := ⟨h.tidy.orderly, h.tidy.current.later (.apply T.selector o)⟩
        selector := h.selector.apply o
        named := h.named
        refusals := h.refusals }

theorem initial_sound (strategy : SelectionStrategy) (servers : List Address) :
    (initial strategy servers).Sound :=
  { tidy := Cluster.initial_tidy _
    selector := Selector.ofServers_sound strategy servers
    named := nofun
    refusals := nofun }

theorem run_sound (h : T.Sound) (os : List Occasion) : (T.run os).Sound :=
  run_of_step (P := Sound) (fun _ o hT => hT.step o) h os

/-- A connection selects by the strategy that it was given. -/
theorem run_strategy (T : Traffic) (os : List Occasion) :
    (T.run os).selector.strategy = T.selector.strategy := by
  refine run_of_step (P := fun T' => T'.selector.strategy = T.selector.strategy) ?_ rfl os
  intro T' o h
  cases o with
  | passage p =>
    show (T'.pass p).selector.strategy = _
    unfold Traffic.pass
    split
    · exact (T'.cluster.handle_later T'.selector p).strategy.trans h
    · exact h
  | select o => exact (Selector.Later.apply T'.selector o).strategy.trans h

end

end Traffic

/-! ## Who carries a request -/

namespace Cluster

/-- The member that carries the next request, if every member accepts connections. -/
def nextCarrier (c : Cluster) (s : Selector) : Option Address :=
  match c.link.filter (c.reusable s) with
  | some l => some l.address
  | none => (demote c.failed s.candidates).head?

section
variable {c : Cluster} {t : Token} {s : Selector}

/-- A send that finds nobody at the link has its turn. -/
theorem start_of_free (h : c.turns = []) :
    c.start t s = ((c.takeTurn t).enter t .queued).connect t s := by
  have ht : ((c.takeTurn t).enter t .queued).hasTurn t = true := by
    simp [hasTurn, enter, takeTurn, h]
  exact if_pos ht

theorem connect_of_reusable {l : Link} (h : c.link.filter (c.reusable s) = some l) :
    c.connect t s = c.useLink t { l with generation := s.generation } s := by
  unfold connect; rw [h]

/-- A send that has its connection takes in no answer to its dialing. -/
theorem dialed_of_sending {a : Address} {k : Nat} (h : c.stage? t = some (.sending a k))
    (accepted : Bool) : c.dialed t accepted s = c.idle s := by
  simp only [dialed, h]

/-- The only send at the link drops it when it has failed. -/
theorem answered_of_fails (h : c.turns = []) {a : Address} {k : Nat}
    (hs : c.stage? t = some (.sending a k)) {e : ConnectionError}
    (he : (e.breaksLink || e.isTimeout) = true) :
    c.answered t (.error e) s = ((c.takeTurn t).enter t (.dropping a e)).dropLink t a e s := by
  have ht : ((c.takeTurn t).enter t (.dropping a e)).hasTurn t = true := by
    simp [hasTurn, enter, takeTurn, h]
  simp only [answered, hs, he, if_true]
  rw [if_pos ht]

theorem useLink_stage? (c : Cluster) (t : Token) (l : Link) (s : Selector) :
    (c.useLink t l s).cluster.stage? t = some (.sending l.address l.connection) :=
  stage?_enter_self _ _ _

theorem connect_of_none (h : c.link.filter (c.reusable s) = none) :
    c.connect t s = dialNext t (demote c.failed s.candidates) s.generation { c with link := none }
      s.rewind.drain.2 := by
  unfold connect; rw [h, ← s.drain_rewind]

/-- **A send whose turn comes** uses the link again, or asks the first candidate. -/
theorem connect_stage? :
    (c.connect t s).cluster.stage? t =
      match c.link.filter (c.reusable s), demote c.failed s.candidates with
      | some l, _ => some (.sending l.address l.connection)
      | none, a :: rest => some (.dialing a rest s.generation)
      | none, [] => none := by
  cases hl : c.link.filter (c.reusable s) with
  | some l =>
    rw [connect_of_reusable hl]
    exact useLink_stage? _ _ _ _
  | none =>
    rw [connect_of_none hl]
    cases demote c.failed s.candidates with
    | cons a rest => exact stage?_enter_self _ _ _
    | nil => exact stage?_forget_self _ _

/-- So does a send that finds nobody at the link. -/
theorem start_stage? (h : c.turns = []) :
    (c.start t s).cluster.stage? t =
      match c.link.filter (c.reusable s), demote c.failed s.candidates with
      | some l, _ => some (.sending l.address l.connection)
      | none, a :: rest => some (.dialing a rest s.generation)
      | none, [] => none := by
  rw [start_of_free h]
  exact connect_stage?

/-- What a send that is alone at the link leaves when a member carries its request: the link to
    that member, and nobody at the link. -/
structure Carries (c c' : Cluster) (t : Token) (s : Selector) (a : Address) : Prop where
  stage : ∃ k, c'.stage? t = some (.sending a k)
  link : ∃ k, c'.link = some { address := a, generation := s.generation, connection := k }
  free : c'.turns = []
  failed : c'.failed = c.failed

/-- **The next carrier carries the request** of a send that is alone at the link, if it accepts a
    connection. -/
theorem start_dialed (h : c.turns = []) {a : Address} (ha : c.nextCarrier s = some a) :
    c.Carries ((c.start t s).cluster.dialed t true (c.start t s).selector).cluster t s a := by
  let joined := (c.takeTurn t).enter t .queued
  have hturns : joined.turns = [t] := by simp [joined, enter, takeTurn, h]
  rw [start_of_free h]
  unfold nextCarrier at ha
  split at ha
  · next l hl =>
    obtain rfl := Option.some.inj ha
    rw [show joined.connect t s = _ from connect_of_reusable hl]
    have hs := joined.useLink_stage? t { l with generation := s.generation } s
    rw [dialed_of_sending hs]
    exact ⟨⟨_, hs⟩, ⟨_, rfl⟩, by simp [idle, useLink, enter, endTurn, hturns], rfl⟩
  · next hl =>
    rw [show joined.connect t s = _ from connect_of_none hl]
    obtain ⟨rest, hrest⟩ : ∃ rest, demote joined.failed s.candidates = a :: rest := by
      cases hc : demote c.failed s.candidates with
      | nil => rw [hc] at ha; cases ha
      | cons b rest => rw [hc] at ha; exact ⟨rest, (Option.some.inj ha) ▸ hc⟩
    rw [hrest]
    have hs := stage?_enter_self { joined with link := none } t (.dialing a rest s.generation)
    simp only [dialNext, dialed, hs, if_true]
    exact ⟨⟨_, stage?_enter_self _ _ _⟩, ⟨_, rfl⟩, by simp [useLink, enter, endTurn, hturns], rfl⟩

end

end Cluster

end ClusterSession
