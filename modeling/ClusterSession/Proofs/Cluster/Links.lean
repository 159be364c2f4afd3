/-
  ClusterSession: how long a link is used.

  Others may change the selector at any time, also while a send waits for a connection.

  * `LinkEvent`: what bears on the link; `Traffic.linkLog` is all of it, in order.
  * `Undisturbed`: since the link was last used again, or since its dial began, the
    selector has been neither reset nor cleared.
  * `Cluster.LinkStep`, `handle_linkStep`: what a passage does to the link.
  * `Traffic.Traced`: the generation of a link is that of the selector just as long as the
    link is undisturbed.
  * `links_disciplined`: there is one dial at a time, and a link is used again under just
    these conditions.
-/
import ClusterSession.Proofs.Cluster.Traffic
import ClusterSession.Proofs.Logs

namespace ClusterSession

/-! ## What bears on the link -/

/-- What bears on the link of a connection. -/
inductive LinkEvent where
  /-- The selector has been reset or cleared. -/
  | changed
  /-- The send has begun to ask for a connection, of one member after another. -/
  | asked (t : Token)
  /-- The send has got its connection, which is the link from now on. -/
  | made (t : Token) (connection : Nat)
  /-- The send uses the link again. -/
  | reused (t : Token) (connection : Nat)
deriving DecidableEq

/-- Since the link was used again last, or else since its dial began, the selector has been neither
    reset nor cleared. -/
def Undisturbed (log : List LinkEvent) (connection : Nat) : Prop :=
  Lately (fun e => ∃ t, e = .reused t connection) (· = .changed) log ∨
    ∃ t, .made t connection ∈ log ∧ Lately (· = .asked t) (· = .changed) log

/-- The connection has been the link. -/
def Linked (log : List LinkEvent) (connection : Nat) : Prop :=
  ∃ t, .made t connection ∈ log ∨ .reused t connection ∈ log

/-- The send waits for a connection. -/
def Stage.isDialing : Stage → Bool
  | dialing _ _ _ => true
  | _ => false

/-- What the move means for the link, of a send that waits for a connection or does not. -/
def Move.linkEvent? (dialing : Bool) (t : Token) : Move → Option LinkEvent
  | forward _ k => some (if dialing then .made t k else .reused t k)
  -- a send that was refused asks the next member, and its dial goes on
  | dial _ => if dialing then none else some (.asked t)
  | wait | finish _ => none

namespace Cluster

/-- What the passage means for the link. -/
def linkEvent? (c : Cluster) (s : Selector) (p : Passage) : Option LinkEvent :=
  (c.handle s p).move.linkEvent? ((c.stage? p.token).any Stage.isDialing) p.token

/-- The turn of the send at the link comes. -/
def takesTurn (c : Cluster) : Passage → Bool
  | .start _ => c.turns.isEmpty
  | .turn t => c.hasTurn t && c.stage? t = some .queued
  | _ => false

end Cluster

namespace Traffic

/-- What the occasion means for the link. -/
def linkEvent? (T : Traffic) : Occasion → Option LinkEvent
  | .passage p => if T.allows p then T.cluster.linkEvent? T.selector p else none
  | .select o => if o.reorders then some .changed else none

/-- All that has borne on the link. -/
def linkLog (T : Traffic) : List Occasion → List LinkEvent
  | [] => []
  | o :: rest => (T.linkEvent? o).toList ++ linkLog (T.step o) rest

theorem linkLog_concat (T : Traffic) (os : List Occasion) (o : Occasion) :
    T.linkLog (os ++ [o]) = T.linkLog os ++ ((T.run os).linkEvent? o).toList := by
  induction os generalizing T with
  | nil => simp [linkLog, run]
  | cons o' rest ih =>
    rw [List.cons_append, linkLog, ih, linkLog, List.append_assoc]
    rfl

theorem run_concat (T : Traffic) (os : List Occasion) (o : Occasion) :
    T.run (os ++ [o]) = (T.run os).step o :=
  List.foldl_concat _ _ _ _

end Traffic

/-! ## Logs of links -/

section
variable {log : List LinkEvent} {e : LinkEvent} {k : Nat}

theorem linked_concat : Linked (log ++ [e]) k ↔
    Linked log k ∨ ∃ t, e = .made t k ∨ e = .reused t k := by
  simp only [Linked, List.mem_append, List.mem_singleton, eq_comm (b := e)]
  constructor
  · rintro ⟨t, (h | h) | (h | h)⟩
    · exact .inl ⟨t, .inl h⟩
    · exact .inr ⟨t, .inl h⟩
    · exact .inl ⟨t, .inr h⟩
    · exact .inr ⟨t, .inr h⟩
  · rintro (⟨t, h | h⟩ | ⟨t, h | h⟩)
    · exact ⟨t, .inl (.inl h)⟩
    · exact ⟨t, .inr (.inl h)⟩
    · exact ⟨t, .inl (.inr h)⟩
    · exact ⟨t, .inr (.inr h)⟩

theorem linked_lt_concat {n : Nat} (h : ∀ k, Linked log k → k < n)
    (he : ∀ t k, e = .made t k ∨ e = .reused t k → k < n) : ∀ k, Linked (log ++ [e]) k → k < n := by
  intro k hk
  rcases linked_concat.1 hk with hk | ⟨t, ht⟩
  · exact h k hk
  · exact he t k ht

/-- Nothing is undisturbed that has not been the link. -/
theorem Undisturbed.linked (h : Undisturbed log k) : Linked log k := by
  rcases h with ⟨before, e, after, rfl, ⟨t, rfl⟩, -⟩ | ⟨t, hm, -⟩
  · exact ⟨t, .inr (by simp)⟩
  · exact ⟨t, .inl hm⟩

/-- A change disturbs every link. -/
theorem not_undisturbed_changed : ¬Undisturbed (log ++ [.changed]) k := by
  rintro (h | ⟨t, -, h⟩)
  · rcases lately_concat.1 h with ⟨t, ht⟩ | ⟨-, hn⟩
    · cases ht
    · exact hn rfl
  · rcases lately_concat.1 h with ht | ⟨-, hn⟩
    · cases ht
    · exact hn rfl

theorem undisturbed_reused (t : Token) : Undisturbed (log ++ [.reused t k]) k :=
  .inl (lately_concat.2 (.inl ⟨t, rfl⟩))

/-- A link that has just been made has been undisturbed since its send began to ask. -/
theorem undisturbed_made {t : Token} (h : ¬Linked log k) :
    Undisturbed (log ++ [.made t k]) k ↔ Lately (· = .asked t) (· = .changed) log := by
  constructor
  · rintro (hr | ⟨t', hm, hl⟩)
    · rcases lately_concat.1 hr with ⟨t', ht⟩ | ⟨hold, -⟩
      · cases ht
      · exact absurd (Undisturbed.linked (.inl hold)) h
    · rcases List.mem_append.1 hm with hm | hm
      · exact absurd ⟨t', .inl hm⟩ h
      · obtain ⟨rfl, -⟩ := LinkEvent.made.inj (List.mem_singleton.1 hm)
        exact ((lately_concat.1 hl).resolve_left nofun).1
  · intro hl
    exact .inr ⟨t, List.mem_append_right _ List.mem_cons_self, lately_concat.2 (.inr ⟨hl, nofun⟩)⟩

/-- Nothing else tells how long ago a send began to ask. -/
theorem lately_asked_concat {u : Token} (hc : e ≠ .changed) (hu : e ≠ .asked u) :
    Lately (· = .asked u) (· = .changed) (log ++ [e]) ↔ Lately (· = .asked u) (· = .changed) log := by
  rw [lately_concat]
  exact ⟨fun h => (h.resolve_left hu).1, fun h => .inr ⟨h, hc⟩⟩

end

/-! ## What a passage does to the link -/

namespace Cluster

/-- What a passage of the send does to the link, in a generation of the selector. -/
inductive LinkStep (c : Cluster) (t : Token) (generation : Nat) : Option LinkEvent → Cluster → Prop
  | reuse {l : Link} {c' : Cluster} (link : c.link = some l)
      (link' : c'.link = some { l with generation }) (connections : c'.connections = c.connections)
      (stage : c'.stage? t = some (.sending l.address l.connection)) :
      LinkStep c t generation (some (.reused t l.connection)) c'
  | ask {a : Address} {rest : List Address} {c' : Cluster} (link' : c'.link = none)
      (connections : c'.connections = c.connections)
      (stage : c'.stage? t = some (.dialing a rest generation)) :
      LinkStep c t generation (some (.asked t)) c'
  | make {a : Address} {rest : List Address} {g : Nat} {c' : Cluster}
      (dialing : c.stage? t = some (.dialing a rest g))
      (link' : c'.link = some { address := a, generation := g, connection := c.connections })
      (connections : c'.connections = c.connections + 1)
      (stage : c'.stage? t = some (.sending a c.connections)) :
      LinkStep c t generation (some (.made t c.connections)) c'
  | stay {c' : Cluster} (link' : ∀ l, c'.link = some l → c.link = some l)
      (connections : c'.connections = c.connections)
      (stage : ∀ a rest g, c'.stage? t = some (.dialing a rest g) →
        ∃ b others, c.stage? t = some (.dialing b others g)) :
      LinkStep c t generation none c'

section
variable {c : Cluster} {t : Token} {s : Selector}

/-- The link and the number of connections are as before, and the send does not wait for one. -/
theorem LinkStep.of_not_dialing {c' : Cluster} {g : Nat} (hl : ∀ l, c'.link = some l → c.link = some l)
    (hk : c'.connections = c.connections)
    (hs : ∀ a rest g, c'.stage? t ≠ some (.dialing a rest g)) : LinkStep c t g none c' :=
  .stay hl hk fun a rest g h => absurd h (hs a rest g)

/-- The send is over, and so is its dial. -/
theorem LinkStep.of_over {c' : Cluster} {g : Nat} (hl : ∀ l, c'.link = some l → c.link = some l)
    (hk : c'.connections = c.connections) (hs : c'.stage? t = none) : LinkStep c t g none c' :=
  .of_not_dialing hl hk fun a rest g h => by cases hs.symm.trans h

/-- What the turn of a send at the link comes to. -/
theorem connect_linkStep :
    LinkStep c t s.generation ((c.connect t s).move.linkEvent? false t) (c.connect t s).cluster := by
  cases hl : c.link.filter (c.reusable s) with
  | some l =>
    rw [connect_of_reusable hl]
    exact .reuse (l := l) (Option.filter_eq_some_iff.1 hl).1 rfl rfl (stage?_enter_self _ _ _)
  | none =>
    rw [connect_of_none hl]
    cases demote c.failed s.candidates with
    | cons a rest => exact .ask rfl rfl (stage?_enter_self _ _ _)
    | nil => exact .of_over (fun _ h => by cases h) rfl (stage?_forget_self _ _)

theorem dropLink_linkStep (a : Address) (e : ConnectionError) (g : Nat) :
    LinkStep c t g none (c.dropLink t a e s).cluster :=
  .of_over (fun _ hl => (Option.filter_eq_some_iff.1 hl).1) rfl (stage?_forget_self _ _)

/-- A send that joins the queue or leaves it changes nothing at the link. -/
theorem LinkStep.of_enter {c' : Cluster} {st : Stage} {g : Nat} {e : Option LinkEvent}
    (h : LinkStep ((c.takeTurn t).enter t st) t g e c') (hst : st.isDialing = false) :
    LinkStep c t g e c' := by
  have hs := stage?_enter_self (c.takeTurn t) t st
  cases h with
  | reuse link link' connections stage => exact .reuse link link' connections stage
  | ask link' connections stage => exact .ask link' connections stage
  | make dialing link' connections stage =>
    cases hs.symm.trans dialing
    cases hst
  | stay link' connections stage =>
    refine .stay link' connections fun a rest g h => ?_
    obtain ⟨b, others, hb⟩ := stage a rest g h
    cases hs.symm.trans hb
    cases hst

/-- **What a passage does to the link.** -/
theorem handle_linkStep {p : Passage} (hp : ∀ t, p = .start t → c.stage? t = none) :
    LinkStep c p.token s.generation (c.linkEvent? s p) (c.handle s p).cluster := by
  have hidle : LinkStep c p.token s.generation none c :=
    .stay (fun _ hl => hl) rfl fun a rest g hs => ⟨a, rest, hs⟩
  unfold linkEvent?
  cases p with
  | start t =>
    simp only [handle, start, Passage.token, hp t rfl, Option.any_none]
    split
    · exact connect_linkStep.of_enter rfl
    · refine .of_not_dialing (fun _ hl => hl) rfl fun a rest g hs => ?_
      cases (stage?_enter_self _ _ _).symm.trans hs
  | turn t =>
    simp only [handle, turn, Passage.token]
    split
    · split
      · next hs =>
        rw [hs]
        exact connect_linkStep
      · exact dropLink_linkStep _ _ _
      · exact hidle
    · exact hidle
  | dialed t accepted =>
    simp only [handle, dialed, Passage.token]
    split
    · next a rest g hs =>
      rw [hs]
      split
      · exact .make hs rfl rfl (stage?_enter_self _ _ _)
      · cases rest with
        | cons b others =>
          refine .stay (fun _ hl => hl) rfl fun a' rest' g' hs' => ?_
          cases (stage?_enter_self _ _ _).symm.trans hs'
          exact ⟨a, b :: others, hs⟩
        | nil => exact .of_over (fun _ hl => hl) rfl (stage?_forget_self _ _)
    · exact hidle
  | answered t result =>
    have hsettle : ∀ a, LinkStep c t s.generation none ((c.settle a).forget t) := fun a => by
      refine .of_over (fun l hl => ?_) ?_ (stage?_forget_self _ _)
      · exact (settle_link c a).symm.trans hl
      · show (c.settle a).connections = _
        unfold settle
        split <;> rfl
    simp only [handle, answered, Passage.token]
    split
    · next a k e hs =>
      split
      · split
        · exact (dropLink_linkStep _ _ _).of_enter rfl
        · refine .of_not_dialing (fun _ hl => hl) rfl fun a rest g hs => ?_
          cases (stage?_enter_self _ _ _).symm.trans hs
      · exact hsettle a
    · exact hsettle _
    · exact hidle
  | abandon t =>
    refine .of_over (fun l hl => (c.abandon_link t).symm.trans hl) ?_ ?_
    · show (c.abandon t).1.connections = _
      unfold abandon
      split
      · rw [leave_eq]; rfl
      · rw [leave_eq]; rfl
      · rfl
      · rw [leave_eq]; rfl
      · rfl
    · exact (c.abandon_stage? t t).trans (if_pos rfl)

end

end Cluster

namespace Traffic

/-! ## Generations -/

/-- The generation of a link, and the one that a send has dialed in, is that of the selector just as
    long as nothing has been changed since. -/
structure Traced (T : Traffic) (log : List LinkEvent) : Prop where
  linked : ∀ k, Linked log k → k < T.cluster.connections
  connection : ∀ l, T.cluster.link = some l → l.connection < T.cluster.connections
  link : ∀ l, T.cluster.link = some l → l.generation ≤ T.selector.generation ∧
    (l.generation = T.selector.generation ↔ Undisturbed log l.connection)
  dialing : ∀ t a rest g, T.cluster.stage? t = some (.dialing a rest g) →
    g ≤ T.selector.generation ∧
      (g = T.selector.generation ↔ Lately (· = .asked t) (· = .changed) log)

section
variable {T : Traffic} {log : List LinkEvent}

/-- In a new generation, every link and every dial is from before. -/
theorem Traced.changed (h : T.Traced log) {s : Selector}
    (hg : s.generation = T.selector.generation + 1) :
    Traced { T with selector := s } (log ++ [.changed]) where
  linked := linked_lt_concat h.linked fun t k he => by rcases he with he | he <;> cases he
  connection := h.connection
  link l hl := by
    have hle := (h.link l hl).1
    refine ⟨by show l.generation ≤ s.generation; omega, ?_⟩
    refine iff_of_false (fun he : l.generation = s.generation => ?_) not_undisturbed_changed
    omega
  dialing t a rest g hs := by
    have hle := (h.dialing t a rest g hs).1
    refine ⟨by show g ≤ s.generation; omega, ?_⟩
    refine iff_of_false (fun he : g = s.generation => by omega) fun hl => ?_
    exact (lately_concat.1 hl).elim nofun fun hn => hn.2 rfl

/-- What one send has done, the others that wait for a connection do not hear of. -/
theorem Traced.dialing_concat (h : T.Traced log) {T' : Traffic} {t : Token} {e : LinkEvent}
    (ho : ∀ u, u ≠ t → T'.cluster.stage? u = T.cluster.stage? u) (he : e ≠ .changed)
    (hasks : ∀ u, e = .asked u → u = t)
    (ht : ∀ a rest g, T'.cluster.stage? t = some (.dialing a rest g) →
      e = .asked t ∧ g = T.selector.generation) {u : Token} {a : Address} {rest : List Address}
    {g : Nat} (hu : T'.cluster.stage? u = some (.dialing a rest g)) :
    g ≤ T.selector.generation ∧
      (g = T.selector.generation ↔ Lately (· = .asked u) (· = .changed) (log ++ [e])) := by
  by_cases hut : u = t
  · subst hut
    obtain ⟨rfl, rfl⟩ := ht a rest g hu
    exact ⟨Nat.le_refl _, iff_of_true rfl (lately_concat.2 (.inl rfl))⟩
  · obtain ⟨hle, hiff⟩ := h.dialing u a rest g (ho u hut ▸ hu)
    exact ⟨hle, hiff.trans (lately_asked_concat he fun hu => hut (hasks u hu)).symm⟩

/-- **What is known of the generations is known after a passage.** -/
theorem Traced.linkStep (h : T.Traced log) {T' : Traffic} {t : Token} {e? : Option LinkEvent}
    (hstep : T.cluster.LinkStep t T.selector.generation e? T'.cluster)
    (ho : ∀ u, u ≠ t → T'.cluster.stage? u = T.cluster.stage? u)
    (hg : T'.selector.generation = T.selector.generation) : T'.Traced (log ++ e?.toList) := by
  cases hstep with
  | @reuse l c' link link' connections stage =>
    refine ⟨linked_lt_concat (connections ▸ h.linked) ?_, fun l' hl' => ?_, fun l' hl' => ?_, ?_⟩
    · rintro u k (he | he)
      · cases he
      · cases he
        rw [connections]
        exact h.connection l link
    · cases link'.symm.trans hl'
      rw [connections]
      exact h.connection l link
    · cases link'.symm.trans hl'
      rw [hg]
      exact ⟨Nat.le_refl _, iff_of_true rfl (undisturbed_reused t)⟩
    · rw [hg]
      refine fun _ _ _ _ => h.dialing_concat (e := .reused t l.connection) ho nofun nofun
        fun a rest g hs => ?_
      cases stage.symm.trans hs
  | @ask a rest c' link' connections stage =>
    refine ⟨linked_lt_concat (connections ▸ h.linked) ?_, fun l' hl' => ?_, fun l' hl' => ?_, ?_⟩
    · rintro u k (he | he) <;> cases he
    · cases link'.symm.trans hl'
    · cases link'.symm.trans hl'
    · rw [hg]
      have hasks : ∀ u, LinkEvent.asked t = .asked u → u = t := fun u hu =>
        (LinkEvent.asked.inj hu).symm
      refine fun _ _ _ _ => h.dialing_concat (e := .asked t) ho nofun hasks
        fun a' rest' g hs => ?_
      cases stage.symm.trans hs
      exact ⟨rfl, rfl⟩
  | @make a rest g c' dialing link' connections stage =>
    have hnew : ¬Linked log T.cluster.connections := fun hk => Nat.lt_irrefl _ (h.linked _ hk)
    have hlt : ∀ k, Linked log k → k < T'.cluster.connections := fun k hk => by
      rw [connections]
      exact Nat.lt_succ_of_lt (h.linked k hk)
    refine ⟨linked_lt_concat hlt ?_, fun l' hl' => ?_, fun l' hl' => ?_, ?_⟩
    · rintro u k (he | he)
      · cases he
        rw [connections]
        exact Nat.lt_succ_self _
      · cases he
    · cases link'.symm.trans hl'
      rw [connections]
      exact Nat.lt_succ_self _
    · cases link'.symm.trans hl'
      obtain ⟨hle, hiff⟩ := h.dialing t a rest g dialing
      rw [hg]
      exact ⟨hle, hiff.trans (undisturbed_made hnew).symm⟩
    · rw [hg]
      refine fun _ _ _ _ => h.dialing_concat (e := .made t T.cluster.connections) ho nofun nofun
        fun a' rest' g' hs => ?_
      cases stage.symm.trans hs
  | stay link' connections stage =>
    rw [Option.toList_none, List.append_nil]
    refine ⟨fun k hk => ?_, fun l' hl' => ?_, fun l' hl' => ?_, fun u a rest g hs => ?_⟩
    · exact connections ▸ h.linked k hk
    · exact connections ▸ h.connection l' (link' l' hl')
    · exact hg ▸ h.link l' (link' l' hl')
    · rw [hg]
      by_cases hut : u = t
      · subst hut
        obtain ⟨b, others, hb⟩ := stage a rest g hs
        exact h.dialing u b others g hb
      · exact h.dialing u a rest g (ho u hut ▸ hs)

theorem Traced.step (h : T.Traced log) (hT : T.Sound) (o : Occasion) :
    (T.step o).Traced (log ++ (T.linkEvent? o).toList) := by
  cases o with
  | passage p =>
    simp only [Traffic.step, Traffic.pass, linkEvent?]
    split
    · next ha =>
      obtain ⟨position, hs⟩ := T.cluster.handle_selector T.selector p
      exact h.linkStep (Cluster.handle_linkStep (hT.start_absent ha))
        (fun u hu => T.cluster.handle_stage_of_ne T.selector p hu) (by rw [hs])
    · rw [Option.toList_none, List.append_nil]
      exact h
  | select o =>
    have hsame : ∀ position, Traced { T with selector := { T.selector with position } } log :=
      fun _ => ⟨h.linked, h.connection, h.link, h.dialing⟩
    cases o with
    | reset leader servers => exact h.changed rfl
    | clearLeader => exact h.changed rfl
    | next =>
      obtain ⟨position, hs⟩ := T.selector.next_eq
      rw [show T.step (.select .next) = { T with selector := T.selector.next.2 } from rfl, hs]
      exact (List.append_nil log).symm ▸ hsame position
    | rewind => exact (List.append_nil log).symm ▸ hsame 0

end

theorem initial_traced (strategy : SelectionStrategy) (servers : List Address) :
    (initial strategy servers).Traced [] where
  linked k hk := by
    obtain ⟨t, ht | ht⟩ := hk
    · cases ht
    · cases ht
  connection := nofun
  link := nofun
  dialing := nofun

/-- **At any time, a link is of the generation of the selector just if it is undisturbed.** -/
theorem run_traced (strategy : SelectionStrategy) (servers : List Address) (os : List Occasion) :
    ((initial strategy servers).run os).Traced ((initial strategy servers).linkLog os) := by
  induction os using List.reverseRecOn with
  | nil => exact initial_traced strategy servers
  | append_singleton os o ih =>
    rw [run_concat, linkLog_concat]
    exact ih.step (run_sound (initial_sound strategy servers) os) o

/-! ## Discipline -/

end Traffic

namespace Cluster

section
variable {c : Cluster} {s : Selector}

/-- A send whose turn comes looks at the link and at the member that has failed. -/
theorem handle_of_takesTurn {p : Passage} (h : c.takesTurn p = true) (s : Selector) :
    ∃ c₀ : Cluster, c₀.link = c.link ∧ c₀.failed = c.failed ∧
      c.handle s p = c₀.connect p.token s := by
  cases p with
  | start t =>
    exact ⟨(c.takeTurn t).enter t .queued, rfl, rfl, start_of_free (List.isEmpty_iff.1 h)⟩
  | turn t =>
    obtain ⟨ht, hs⟩ := Bool.and_eq_true_iff.1 h
    exact ⟨c, rfl, rfl, by simp only [handle, turn, ht, of_decide_eq_true hs, if_true]; rfl⟩
  | dialed t accepted => cases h
  | answered t result => cases h
  | abandon t => cases h

/-- The send is carried by that very link. -/
structure Reuses (l : Link) (t : Token) (r : Routed) : Prop where
  move : r.move = .forward l.address l.connection
  stage : r.cluster.stage? t = some (.sending l.address l.connection)
  link : ∃ generation, r.cluster.link = some { l with generation }

/-- There is no link any more, and the send asks a member for a connection, or finds none. -/
structure Relinks (t : Token) (r : Routed) : Prop where
  link : r.cluster.link = none
  move : (∃ a rest g, r.move = .dial a ∧ r.cluster.stage? t = some (.dialing a rest g)) ∨
    (r.move = .finish (.error .noServersAvailable) ∧ r.cluster.stage? t = none)

theorem connect_reuses {t : Token} {l : Link} (hl : c.link = some l) (hr : c.reusable s l = true) :
    Reuses l t (c.connect t s) := by
  rw [connect_of_reusable (Option.filter_eq_some_iff.2 ⟨hl, hr⟩)]
  exact ⟨rfl, stage?_enter_self _ _ _, _, rfl⟩

theorem connect_relinks {t : Token} {l : Link} (hl : c.link = some l) (hr : c.reusable s l = false) :
    Relinks t (c.connect t s) := by
  rw [connect_of_none (by rw [hl, Option.filter_some, hr]; rfl)]
  cases demote c.failed s.candidates with
  | cons a rest => exact ⟨rfl, .inl ⟨a, rest, s.generation, rfl, stage?_enter_self _ _ _⟩⟩
  | nil => exact ⟨rfl, .inr ⟨rfl, stage?_forget_self _ _⟩⟩

end

end Cluster

namespace Traffic

/-- The link may be used again: its member has not failed, and either the selector prefers it or
    nothing has been changed since the link was used again last, or else since its dial began. -/
def Usable (T : Traffic) (log : List LinkEvent) (l : Link) : Prop :=
  T.cluster.failed ≠ some l.address ∧
    (T.selector.preferred = some l.address ∨ Undisturbed log l.connection)

/-- How sends use the link. -/
structure Disciplined (T : Traffic) (log : List LinkEvent) : Prop where
  /-- At most one send waits for a connection. -/
  single : ∀ t t' a a' rest rest' g g', T.cluster.stage? t = some (.dialing a rest g) →
    T.cluster.stage? t' = some (.dialing a' rest' g') → t = t'
  /-- Meanwhile there is no link. -/
  unlinked : ∀ t a rest g, T.cluster.stage? t = some (.dialing a rest g) → T.cluster.link = none
  /-- A send whose turn comes uses the link again, if it may be used. -/
  reused : ∀ p l, T.cluster.takesTurn p = true → T.cluster.link = some l → T.Usable log l →
    Cluster.Reuses l p.token (T.cluster.handle T.selector p)
  /-- Otherwise the link is gone before a member is asked. -/
  relinked : ∀ p l, T.cluster.takesTurn p = true → T.cluster.link = some l → ¬T.Usable log l →
    Cluster.Relinks p.token (T.cluster.handle T.selector p)

theorem Traced.reusable_iff {T : Traffic} {log : List LinkEvent} (h : T.Traced log) {l : Link}
    (hl : T.cluster.link = some l) :
    T.cluster.reusable T.selector l = true ↔ T.Usable log l := by
  unfold Cluster.reusable Usable
  rw [Bool.and_eq_true, Bool.or_eq_true, decide_eq_true_iff, decide_eq_true_iff, decide_eq_true_iff,
    (h.link l hl).2, or_comm]

/-- **There is one dial at a time, and a send whose turn comes is carried by the link just as long as
    it may be used.** -/
theorem links_disciplined (strategy : SelectionStrategy) (servers : List Address)
    (os : List Occasion) :
    ((initial strategy servers).run os).Disciplined ((initial strategy servers).linkLog os) := by
  have hsound := run_sound (initial_sound strategy servers) os
  have htraced := run_traced strategy servers os
  generalize (initial strategy servers).run os = T at hsound htraced
  generalize (initial strategy servers).linkLog os = log at htraced
  have horderly := hsound.tidy.orderly
  refine ⟨fun t t' a a' rest rest' g g' ht ht' => ?_, horderly.unlinked, fun p l hp hl hu => ?_,
    fun p l hp hl hu => ?_⟩
  · exact Cluster.eq_of_hasTurn (horderly.dialing t' a' rest' g' ht')
      (horderly.dialing t a rest g ht)
  · obtain ⟨c, hlink, hfailed, hhandle⟩ := Cluster.handle_of_takesTurn hp T.selector
    rw [hhandle]
    refine Cluster.connect_reuses (hlink.trans hl) ?_
    unfold Cluster.reusable
    rw [hfailed]
    exact (htraced.reusable_iff hl).2 hu
  · obtain ⟨c, hlink, hfailed, hhandle⟩ := Cluster.handle_of_takesTurn hp T.selector
    rw [hhandle]
    refine Cluster.connect_relinks (hlink.trans hl) ?_
    unfold Cluster.reusable
    rw [hfailed]
    exact Bool.eq_false_iff.2 fun hr => hu ((htraced.reusable_iff hl).1 hr)

end Traffic

end ClusterSession
