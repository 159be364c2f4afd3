/-
  ClusterSession: the sends of a cluster connection and their turns at the link.

  * `Passage`: what may happen to a send; `Cluster.handle` is what comes of it.
  * `handle_stage_of_ne`, `handle_selector`: other sends stay where they are, and of the
    selector nothing changes but the position.
  * `Cluster.Tidy`: the sends that want a turn are just those in the queue, whoever waits
    for a connection is first in it, and a link that the selector has not outdated leads
    to a candidate.
  * `handle_tidy`: whatever happens keeps a connection tidy.
-/
import ClusterSession.Proofs.Selector.Orders

namespace ClusterSession

/-- The send has its turn, or waits for it. -/
def Stage.wantsTurn : Stage → Bool
  | queued | dialing _ _ _ | dropping _ _ => true
  | sending _ _ => false

/-- The member that a send waits on, for a connection or for an answer. -/
def Stage.member? : Stage → Option Address
  | dialing a _ _ | sending a _ => some a
  | queued | dropping _ _ => none

/-- The member that carries the request of a send. -/
def Stage.carrier? : Stage → Option Address
  | sending a _ => some a
  | _ => none

/-- What may happen to a send. -/
inductive Passage where
  /-- Its caller starts it. -/
  | start (t : Token)
  /-- Its turn may have come. -/
  | turn (t : Token)
  /-- The member that it dialed has accepted or refused a connection. -/
  | dialed (t : Token) (accepted : Bool)
  /-- Its request has a result. -/
  | answered (t : Token) (result : Except ConnectionError Response)
  /-- Its caller stops waiting for it. -/
  | abandon (t : Token)

def Passage.token : Passage → Token
  | start t | turn t | dialed t _ | answered t _ | abandon t => t

namespace Cluster

/-- What comes of what happens to a send. -/
def handle (c : Cluster) (s : Selector) : Passage → Routed
  | .start t => c.start t s
  | .turn t => c.turn t s
  | .dialed t accepted => c.dialed t accepted s
  | .answered t result => c.answered t result s
  | .abandon t =>
    { cluster := (c.abandon t).1, selector := s, woken := (c.abandon t).2, move := .wait }

/-! ## Stages -/

section
variable (c : Cluster) (t : Token) (st : Stage)

theorem lookup_filter_ne {u : Token} (h : u ≠ t) (stages : List (Token × Stage)) :
    (stages.filter (·.1 ≠ t)).lookup u = stages.lookup u := by
  induction stages with
  | nil => rfl
  | cons x rest ih =>
    obtain ⟨v, stage⟩ := x
    rw [List.filter_cons]
    by_cases hv : v = t
    · subst hv
      rw [if_neg (by simp), ih, List.lookup_cons, beq_false_of_ne h]
    · rw [if_pos (by simpa using hv), List.lookup_cons, List.lookup_cons, ih]

@[simp] theorem stage?_forget_self : (c.forget t).stage? t = none := by
  rw [stage?, forget, List.lookup_eq_none_iff]
  intro x hx
  have hne : x.1 ≠ t := by simpa using (List.mem_filter.1 hx).2
  simpa using hne.symm

theorem stage?_forget_of_ne {u : Token} (h : u ≠ t) : (c.forget t).stage? u = c.stage? u :=
  lookup_filter_ne t h c.stages

@[simp] theorem stage?_enter_self : (c.enter t st).stage? t = some st := by
  simp [stage?, enter]

theorem stage?_enter_of_ne {u : Token} (h : u ≠ t) : (c.enter t st).stage? u = c.stage? u := by
  rw [stage?, enter, List.lookup_cons, beq_false_of_ne h]
  exact lookup_filter_ne t h c.stages

theorem hasTurn_iff : c.hasTurn t = true ↔ ∃ rest, c.turns = t :: rest := by
  rw [hasTurn, decide_eq_true_iff]
  cases c.turns <;> simp

@[simp] theorem settle_stage? (a : Address) (u : Token) : (c.settle a).stage? u = c.stage? u := by
  unfold settle; split <;> rfl

@[simp] theorem settle_turns (a : Address) : (c.settle a).turns = c.turns := by
  unfold settle; split <;> rfl

@[simp] theorem settle_link (a : Address) : (c.settle a).link = c.link := by
  unfold settle; split <;> rfl

/-- Whoever leaves the queue is in it no more. -/
theorem leave_eq : (c.leave t).1 = { c with turns := c.turns.erase t } := by
  unfold leave
  split
  · next h =>
    obtain ⟨rest, hr⟩ := (c.hasTurn_iff t).1 h
    simp [endTurn, hr]
  · rfl

/-! ## What a step leaves of a send -/

/-- The send itself and others after a step. -/
structure Leaves (c : Cluster) (t : Token) (r : Routed) : Prop where
  others : ∀ u, u ≠ t → r.cluster.stage? u = c.stage? u
  finished : ∀ result, r.move = .finish result → r.cluster.stage? t = none
  dialing : ∀ a, r.move = .dial a → ∃ rest g, r.cluster.stage? t = some (.dialing a rest g)
  sending : ∀ a k, r.move = .forward a k → r.cluster.stage? t = some (.sending a k)

theorem useLink_leaves (l : Link) (s : Selector) : c.Leaves t (c.useLink t l s) :=
  { others := fun _ hu => stage?_enter_of_ne _ _ _ hu
    finished := nofun
    dialing := nofun
    sending := fun _ _ he => by cases he; exact stage?_enter_self _ _ _ }

theorem dialNext_leaves (candidates : List Address) (g : Nat) (s : Selector) :
    c.Leaves t (dialNext t candidates g c s) := by
  cases candidates with
  | nil =>
    exact
      { others := fun _ hu => stage?_forget_of_ne _ _ hu
        finished := fun _ _ => stage?_forget_self _ _
        dialing := nofun
        sending := nofun }
  | cons a rest =>
    exact
      { others := fun _ hu => stage?_enter_of_ne _ _ _ hu
        finished := nofun
        dialing := fun _ he => by cases he; exact ⟨rest, g, stage?_enter_self _ _ _⟩
        sending := nofun }

theorem connect_leaves (s : Selector) : c.Leaves t (c.connect t s) := by
  unfold connect
  split
  · exact useLink_leaves _ _ _ _
  · have h := dialNext_leaves { c with link := none } t (demote c.failed s.rewind.drain.1)
      s.generation s.rewind.drain.2
    exact ⟨h.others, h.finished, h.dialing, h.sending⟩

theorem dropLink_leaves (a : Address) (e : ConnectionError) (s : Selector) :
    c.Leaves t (c.dropLink t a e s) :=
  { others := fun _ hu => stage?_forget_of_ne _ _ hu
    finished := fun _ _ => stage?_forget_self _ _
    dialing := nofun
    sending := nofun }

theorem idle_leaves (s : Selector) : c.Leaves t (c.idle s) :=
  { others := fun _ _ => rfl, finished := nofun, dialing := nofun, sending := nofun }

variable {c t} in
/-- A step after the send has entered a stage. -/
theorem Leaves.of_enter {r : Routed} {c' : Cluster} (h : c'.Leaves t r)
    (hc : ∀ u, u ≠ t → c'.stage? u = c.stage? u) : c.Leaves t r :=
  ⟨fun u hu => (h.others u hu).trans (hc u hu), h.finished, h.dialing, h.sending⟩

theorem start_leaves (s : Selector) : c.Leaves t (c.start t s) := by
  have hc : ∀ u, u ≠ t → ((c.takeTurn t).enter t .queued).stage? u = c.stage? u :=
    fun _ hu => stage?_enter_of_ne _ _ _ hu
  unfold start
  dsimp only
  split
  · exact (connect_leaves _ _ _).of_enter hc
  · exact (idle_leaves _ _ _).of_enter hc

theorem turn_leaves (s : Selector) : c.Leaves t (c.turn t s) := by
  unfold turn
  split
  · split
    · exact connect_leaves _ _ _
    · exact dropLink_leaves _ _ _ _ _
    · exact idle_leaves _ _ _
  · exact idle_leaves _ _ _

theorem dialed_leaves (accepted : Bool) (s : Selector) : c.Leaves t (c.dialed t accepted s) := by
  unfold dialed
  split
  · split
    · exact (useLink_leaves _ _ _ _).of_enter fun _ _ => rfl
    · exact dialNext_leaves _ _ _ _ _
  · exact idle_leaves _ _ _

theorem answered_leaves (result : Except ConnectionError Response) (s : Selector) :
    c.Leaves t (c.answered t result s) := by
  have hsettle : ∀ a u, u ≠ t → ((c.settle a).forget t).stage? u = c.stage? u :=
    fun a _ hu => (stage?_forget_of_ne _ _ hu).trans (settle_stage? _ _ _)
  unfold answered
  split
  · split
    · dsimp only
      split
      · exact (dropLink_leaves _ _ _ _ _).of_enter fun _ hu => stage?_enter_of_ne _ _ _ hu
      · exact (idle_leaves _ _ _).of_enter fun _ hu => stage?_enter_of_ne _ _ _ hu
    · exact ⟨hsettle _, fun _ _ => stage?_forget_self _ _, nofun, nofun⟩
  · exact ⟨hsettle _, fun _ _ => stage?_forget_self _ _, nofun, nofun⟩
  · exact idle_leaves _ _ _

/-- A send that was given up is over. -/
theorem abandon_stage? (u : Token) :
    (c.abandon t).1.stage? u = if u = t then none else c.stage? u := by
  have hforget : ∀ c' : Cluster, (∀ v, c'.stage? v = c.stage? v) →
      (c'.forget t).stage? u = if u = t then none else c.stage? u := by
    intro c' hc'
    split
    · next he => rw [he]; exact stage?_forget_self _ _
    · next hu => rw [stage?_forget_of_ne _ _ hu]; exact hc' u
  unfold abandon
  split
  · rw [leave_eq]; exact hforget c fun _ => rfl
  · rw [leave_eq]; exact hforget c fun _ => rfl
  · exact hforget _ fun _ => rfl
  · rw [leave_eq]; exact hforget _ fun _ => rfl
  · next h =>
    split
    · next he => rw [he]; exact h
    · rfl

theorem abandon_link : (c.abandon t).1.link = c.link := by
  unfold abandon
  split
  · rw [leave_eq]; rfl
  · rw [leave_eq]; rfl
  · rfl
  · rw [leave_eq]; rfl
  · rfl

end

section
variable (c : Cluster) (s : Selector) (p : Passage)

theorem handle_leaves : c.Leaves p.token (c.handle s p) := by
  cases p with
  | start t => exact c.start_leaves t s
  | turn t => exact c.turn_leaves t s
  | dialed t accepted => exact c.dialed_leaves t accepted s
  | answered t result => exact c.answered_leaves t result s
  | abandon t =>
    exact
      { others := fun u hu => (c.abandon_stage? t u).trans (if_neg hu)
        finished := nofun
        dialing := nofun
        sending := nofun }

/-- **Other sends stay where they are.** -/
theorem handle_stage_of_ne {u : Token} (hu : u ≠ p.token) :
    (c.handle s p).cluster.stage? u = c.stage? u :=
  (c.handle_leaves s p).others u hu

theorem dialNext_selector (t : Token) (candidates : List Address) (g : Nat) :
    (dialNext t candidates g c s).selector = s ∨
      (dialNext t candidates g c s).selector = s.rewind := by
  cases candidates with
  | nil => exact .inr rfl
  | cons a rest => exact .inl rfl

theorem connect_selector (t : Token) :
    ∃ position, (c.connect t s).selector = { s with position } := by
  unfold connect
  split
  · exact ⟨_, rfl⟩
  · rcases dialNext_selector { c with link := none } s.rewind.drain.2 t
      (demote c.failed s.rewind.drain.1) s.generation with he | he
    · exact ⟨_, he⟩
    · exact ⟨_, he⟩

/-- **Of the selector, nothing changes but the position.** -/
theorem handle_selector : ∃ position, (c.handle s p).selector = { s with position } := by
  have hself : ∃ position, s = { s with position } := ⟨s.position, rfl⟩
  cases p with
  | start t =>
    simp only [handle, start]
    split
    · exact connect_selector _ _ _
    · exact hself
  | turn t =>
    simp only [handle, turn]
    split
    · split
      · exact connect_selector _ _ _
      · exact hself
      · exact hself
    · exact hself
  | dialed t accepted =>
    simp only [handle, dialed]
    split
    · split
      · exact hself
      · rcases c.dialNext_selector s t _ _ with he | he
        · exact ⟨_, he⟩
        · exact ⟨_, he⟩
    · exact hself
  | answered t result =>
    simp only [handle, answered]
    split
    · split
      · split
        · exact hself
        · exact hself
      · exact hself
    · exact hself
    · exact hself
  | abandon t => exact hself

theorem handle_later : Selector.Later s (c.handle s p).selector := by
  obtain ⟨position, he⟩ := c.handle_selector s p
  rw [he]
  exact .position s position

theorem handle_sound (h : s.Sound) : (c.handle s p).selector.Sound := by
  obtain ⟨position, he⟩ := c.handle_selector s p
  rw [he]
  exact h.position position

end

/-! ## Turns -/

/-- The sends that want a turn are just those in the queue, and whoever waits for a connection is
    first in it; meanwhile there is no link. -/
structure Orderly (c : Cluster) : Prop where
  nodup : c.turns.Nodup
  mem_turns : ∀ t, t ∈ c.turns ↔ ∃ st, c.stage? t = some st ∧ st.wantsTurn = true
  dialing : ∀ t a rest g, c.stage? t = some (.dialing a rest g) → c.hasTurn t = true
  unlinked : ∀ t a rest g, c.stage? t = some (.dialing a rest g) → c.link = none

/-- One send at a time has its turn. -/
theorem eq_of_hasTurn {c : Cluster} {t u : Token} (ht : c.hasTurn t = true)
    (hu : c.hasTurn u = true) : u = t := by
  obtain ⟨rest, hr⟩ := (c.hasTurn_iff t).1 ht
  obtain ⟨rest', hr'⟩ := (c.hasTurn_iff u).1 hu
  exact (List.cons.inj (hr'.symm.trans hr)).1

namespace Orderly
variable {c c' : Cluster} {t : Token} {st : Stage}

/-- Only the send that has its turn changes the link. -/
theorem unlinked_of_ne (h : c.Orderly) (hl : c'.link = c.link ∨ c.hasTurn t = true) {u : Token}
    (he : u ≠ t) {a : Address} {rest : List Address} {g : Nat}
    (hu : c.stage? u = some (.dialing a rest g)) : c'.link = none := by
  rcases hl with hl | ht
  · exact hl.trans (h.unlinked u a rest g hu)
  · exact absurd (eq_of_hasTurn ht (h.dialing u a rest g hu)) he

/-- A send leaves the queue, with its turn or without. -/
theorem of_erase (h : c.Orderly) (hl : c'.link = c.link ∨ c.hasTurn t = true)
    (ht : c'.turns = c.turns.erase t) (ho : ∀ u, u ≠ t → c'.stage? u = c.stage? u)
    (hs : ∀ st, c'.stage? t = some st → st.wantsTurn = false) : c'.Orderly := by
  have hne : ∀ u a rest g, c'.stage? u = some (.dialing a rest g) → u ≠ t := by
    rintro u a rest g hu rfl
    exact absurd (hs _ hu) nofun
  refine ⟨ht ▸ h.nodup.erase t, fun u => ?_, fun u a rest g hu => ?_, fun u a rest g hu => ?_⟩
  · rw [ht, h.nodup.mem_erase_iff]
    by_cases he : u = t
    · subst he
      refine iff_of_false (fun hne => hne.1 rfl) ?_
      rintro ⟨st, hst, hw⟩
      rw [hs st hst] at hw
      cases hw
    · rw [h.mem_turns u, ho u he]
      exact and_iff_right he
  · have he := hne u a rest g hu
    obtain ⟨tail, hr⟩ := (c.hasTurn_iff u).1 (h.dialing u a rest g (ho u he ▸ hu))
    rw [hasTurn_iff, ht, hr, List.erase_cons_tail (by simpa using he)]
    exact ⟨_, rfl⟩
  · have he := hne u a rest g hu
    exact h.unlinked_of_ne hl he (ho u he ▸ hu)

/-- A send joins the queue. -/
theorem of_append (h : c.Orderly) (hn : t ∉ c.turns) (hl : c'.link = c.link)
    (ht : c'.turns = c.turns ++ [t]) (ho : ∀ u, u ≠ t → c'.stage? u = c.stage? u)
    (hs : c'.stage? t = some st) (hw : st.wantsTurn = true)
    (hd : ∀ a rest g, st ≠ .dialing a rest g) : c'.Orderly := by
  have hne : ∀ u a rest g, c'.stage? u = some (.dialing a rest g) → u ≠ t := by
    rintro u a rest g hu rfl
    exact hd a rest g (Option.some.inj (hs.symm.trans hu))
  refine ⟨?_, fun u => ?_, fun u a rest g hu => ?_, fun u a rest g hu => ?_⟩
  · rw [ht]
    exact List.Nodup.append h.nodup (List.nodup_singleton t) (by simpa using hn)
  · rw [ht, List.mem_append, List.mem_singleton]
    by_cases he : u = t
    · subst he
      exact iff_of_true (.inr rfl) ⟨st, hs, hw⟩
    · rw [h.mem_turns u, ho u he]
      exact or_iff_left he
  · obtain ⟨tail, hr⟩ :=
      (c.hasTurn_iff u).1 (h.dialing u a rest g (ho u (hne u a rest g hu) ▸ hu))
    rw [hasTurn_iff, ht, hr]
    exact ⟨_, rfl⟩
  · exact hl.trans (h.unlinked u a rest g (ho u (hne u a rest g hu) ▸ hu))

/-- The send that has its turn keeps it. -/
theorem of_enter (h : c.Orderly) (hn : c.hasTurn t = true) (hl : c'.link = none)
    (ht : c'.turns = c.turns) (ho : ∀ u, u ≠ t → c'.stage? u = c.stage? u)
    (hs : c'.stage? t = some st) (hw : st.wantsTurn = true) : c'.Orderly := by
  obtain ⟨tail, hr⟩ := (c.hasTurn_iff t).1 hn
  refine ⟨ht ▸ h.nodup, fun u => ?_, fun u a rest g hu => ?_, fun _ _ _ _ _ => hl⟩
  · rw [ht]
    by_cases he : u = t
    · subst he
      exact iff_of_true (hr ▸ List.mem_cons_self) ⟨st, hs, hw⟩
    · rw [h.mem_turns u, ho u he]
  · unfold hasTurn
    rw [ht]
    by_cases he : u = t
    · exact he ▸ hn
    · exact h.dialing u a rest g (ho u he ▸ hu)

theorem not_mem_of_sending (h : c.Orderly) {a : Address} {k : Nat}
    (hs : c.stage? t = some (.sending a k)) : t ∉ c.turns := by
  rw [h.mem_turns]
  rintro ⟨st, hst, hw⟩
  obtain rfl := Option.some.inj (hs.symm.trans hst)
  cases hw

theorem not_mem_of_absent (h : c.Orderly) (hs : c.stage? t = none) : t ∉ c.turns := by
  rw [h.mem_turns]
  rintro ⟨st, hst, -⟩
  exact absurd (hs.symm.trans hst) nofun

end Orderly

/-- The one that has its turn is the first in the queue. -/
theorem endTurn_turns {c : Cluster} {t : Token} (h : c.hasTurn t = true) :
    c.endTurn.turns = c.turns.erase t := by
  obtain ⟨rest, hr⟩ := (c.hasTurn_iff t).1 h
  simp [endTurn, hr]

section
variable {c : Cluster} {t : Token}

theorem useLink_orderly (h : c.Orderly) (ht : c.hasTurn t = true) (l : Link) (s : Selector) :
    (c.useLink t l s).cluster.Orderly := by
  refine h.of_erase (.inr ht) (endTurn_turns ht) (c.useLink_leaves t l s).others fun st hst => ?_
  rw [← Option.some.inj ((stage?_enter_self _ _ _).symm.trans hst)]
  rfl

theorem dialNext_orderly (h : c.Orderly) (ht : c.hasTurn t = true) (hl : c.link = none)
    (candidates : List Address) (g : Nat) (s : Selector) :
    (dialNext t candidates g c s).cluster.Orderly := by
  have ho := (c.dialNext_leaves t candidates g s).others
  cases candidates with
  | nil =>
    refine h.of_erase (.inr ht) (endTurn_turns ht) ho fun st hst => ?_
    exact absurd ((stage?_forget_self _ _).symm.trans hst) nofun
  | cons a rest => exact h.of_enter ht hl rfl ho (stage?_enter_self _ _ _) rfl

theorem connect_orderly (h : c.Orderly) (ht : c.hasTurn t = true) (s : Selector) :
    (c.connect t s).cluster.Orderly := by
  have h' : Orderly { c with link := none } :=
    ⟨h.nodup, h.mem_turns, h.dialing, fun _ _ _ _ _ => rfl⟩
  unfold connect
  split
  · exact useLink_orderly h ht _ s
  · exact dialNext_orderly h' ht rfl _ _ _

theorem dropLink_orderly (h : c.Orderly) (ht : c.hasTurn t = true) (a : Address)
    (e : ConnectionError) (s : Selector) : (c.dropLink t a e s).cluster.Orderly := by
  refine h.of_erase (.inr ht) (endTurn_turns ht) (c.dropLink_leaves t a e s).others fun st hst => ?_
  exact absurd ((stage?_forget_self _ _).symm.trans hst) nofun

/-- A send that joins the queue. -/
theorem join_orderly (h : c.Orderly) (ht : t ∉ c.turns) {st : Stage} (hw : st.wantsTurn = true)
    (hd : ∀ a rest g, st ≠ .dialing a rest g) : ((c.takeTurn t).enter t st).Orderly :=
  h.of_append ht rfl rfl (fun _ hu => stage?_enter_of_ne _ _ _ hu) (stage?_enter_self _ _ _) hw hd

theorem abandon_orderly (h : c.Orderly) : (c.abandon t).1.Orderly := by
  have hturns : (c.abandon t).1.turns = c.turns.erase t := by
    unfold abandon
    split
    · rw [leave_eq]; rfl
    · rw [leave_eq]; rfl
    · next hs => exact (List.erase_of_not_mem (h.not_mem_of_sending hs)).symm
    · rw [leave_eq]; rfl
    · next hs => exact (List.erase_of_not_mem (h.not_mem_of_absent hs)).symm
  refine h.of_erase (.inl (c.abandon_link t)) hturns
    (fun u hu => (c.abandon_stage? t u).trans (if_neg hu)) fun st hst => ?_
  rw [abandon_stage?, if_pos rfl] at hst
  cases hst

/-- **Whatever happens, the queue stays in order.**  A send is started once. -/
theorem handle_orderly (h : c.Orderly) (s : Selector) {p : Passage}
    (hp : ∀ t, p = .start t → c.stage? t = none) : (c.handle s p).cluster.Orderly := by
  cases p with
  | start t =>
    have hj : ((c.takeTurn t).enter t .queued).Orderly :=
      join_orderly h (h.not_mem_of_absent (hp t rfl)) rfl nofun
    simp only [handle, start]
    split
    · next ht => exact connect_orderly hj ht s
    · exact hj
  | turn t =>
    simp only [handle, turn]
    split
    · next ht =>
      split
      · exact connect_orderly h ht s
      · exact dropLink_orderly h ht _ _ s
      · exact h
    · exact h
  | dialed t accepted =>
    simp only [handle, dialed]
    split
    · next a rest g hs =>
      have ht := h.dialing t a rest g hs
      have h' : Orderly { c with connections := c.connections + 1 } :=
        ⟨h.nodup, h.mem_turns, h.dialing, h.unlinked⟩
      split
      · exact useLink_orderly h' ht _ s
      · exact dialNext_orderly h ht (h.unlinked t a rest g hs) _ _ s
    · exact h
  | answered t result =>
    have hsettle : ∀ {a k}, c.stage? t = some (.sending a k) →
        ((c.settle a).forget t).Orderly := by
      intro a k hs
      refine h.of_erase (t := t) (.inl (settle_link c a)) ?_ ?_ fun st hst => ?_
      · rw [List.erase_of_not_mem (h.not_mem_of_sending hs)]
        exact settle_turns c a
      · exact fun u hu => (stage?_forget_of_ne _ _ hu).trans (settle_stage? _ _ _)
      · exact absurd ((stage?_forget_self _ _).symm.trans hst) nofun
    simp only [handle, answered]
    split
    · next a k e hs =>
      have hj : ((c.takeTurn t).enter t (.dropping a e)).Orderly :=
        join_orderly h (h.not_mem_of_sending hs) rfl nofun
      split
      · split
        · next ht => exact dropLink_orderly hj ht a e s
        · exact hj
      · exact hsettle hs
    · next hs => exact hsettle hs
    · exact h
  | abandon t => exact abandon_orderly h

end

/-! ## Links -/

/-- In generation `g`, the member was a candidate, as far as the selector can tell. -/
def Known (s : Selector) (g : Nat) (a : Address) : Prop :=
  g ≤ s.generation ∧ (g = s.generation → a ∈ s.candidates)

theorem Known.later {s s' : Selector} {g : Nat} {a : Address} (h : Known s g a)
    (hs : Selector.Later s s') : Known s' g a := by
  have hg := hs.generation
  refine ⟨Nat.le_trans h.1 hg, fun he => ?_⟩
  have hsame : s'.generation = s.generation := by have := h.1; omega
  rw [(hs.same hsame).2.2]
  exact h.2 (he.trans hsame)

/-- The link leads to a candidate, and so will a link that a send waits for, unless the selector
    has changed since. -/
structure Current (c : Cluster) (s : Selector) : Prop where
  link : ∀ l, c.link = some l → Known s l.generation l.address
  dialing : ∀ t a rest g, c.stage? t = some (.dialing a rest g) → ∀ b ∈ a :: rest, Known s g b

namespace Current
variable {c c' : Cluster} {s s' : Selector} {t : Token}

theorem later (h : c.Current s) (hs : Selector.Later s s') : c.Current s' :=
  ⟨fun l hl => (h.link l hl).later hs,
    fun t a rest g ht b hb => (h.dialing t a rest g ht b hb).later hs⟩

/-- A send goes on, and the link stays, is dropped or is a new one. -/
theorem of_link (h : c.Current s) (hl : ∀ l, c'.link = some l → Known s l.generation l.address)
    (ho : ∀ u, u ≠ t → c'.stage? u = c.stage? u)
    (ht : ∀ a rest g, c'.stage? t = some (.dialing a rest g) → ∀ b ∈ a :: rest, Known s g b) :
    c'.Current s := by
  refine ⟨hl, fun u a rest g hu => ?_⟩
  by_cases he : u = t
  · subst he
    exact ht a rest g hu
  · exact h.dialing u a rest g (ho u he ▸ hu)

/-- A link that is used again leads to a candidate. -/
theorem known_of_reusable (h : c.Current s) {l : Link}
    (hl : c.link.filter (c.reusable s) = some l) : l.address ∈ s.candidates := by
  obtain ⟨hl, hr⟩ := Option.filter_eq_some_iff.1 hl
  simp only [reusable, Bool.and_eq_true, Bool.or_eq_true, decide_eq_true_iff] at hr
  rcases hr.2 with hg | hp
  · exact (h.link l hl).2 hg
  · exact List.mem_of_head? hp

theorem useLink (h : c.Current s) {l : Link} (hl : Known s l.generation l.address) :
    (c.useLink t l s).cluster.Current s := by
  refine h.of_link (fun _ he => Option.some.inj he ▸ hl) (c.useLink_leaves t l s).others ?_
  intro a rest g hs
  cases (stage?_enter_self _ _ _).symm.trans hs

theorem dialNext (h : c.Current s) (hl : c.link = none) {candidates : List Address} {g : Nat}
    (hk : ∀ b ∈ candidates, Known s g b) (s' : Selector) :
    (dialNext t candidates g c s').cluster.Current s := by
  have ho := (c.dialNext_leaves t candidates g s').others
  cases candidates with
  | nil =>
    refine h.of_link (fun l he => absurd (hl.symm.trans he) nofun) ho fun a rest g hs => ?_
    cases (stage?_forget_self _ _).symm.trans hs
  | cons a rest =>
    refine h.of_link (fun l he => absurd (hl.symm.trans he) nofun) ho fun a' rest' g' hs => ?_
    cases (stage?_enter_self _ _ _).symm.trans hs
    exact hk

theorem connect (h : c.Current s) : (c.connect t s).cluster.Current s := by
  have h' : Current { c with link := none } s := ⟨nofun, h.dialing⟩
  unfold Cluster.connect
  split
  · next l hl => exact h.useLink ⟨Nat.le_refl _, fun _ => h.known_of_reusable (l := l) hl⟩
  · refine h'.dialNext rfl (fun b hb => ⟨Nat.le_refl _, fun _ => ?_⟩) _
    exact s.drain_rewind ▸ mem_demote.1 hb

theorem dropLink (h : c.Current s) (a : Address) (e : ConnectionError) :
    (c.dropLink t a e s).cluster.Current s := by
  refine h.of_link (fun l he => h.link l ?_) (c.dropLink_leaves t a e s).others ?_
  · exact (Option.filter_eq_some_iff.1 he).1
  · intro a rest g hs
    cases (stage?_forget_self _ _).symm.trans hs

/-- A send that joins the queue does not dial yet. -/
theorem enter (h : c.Current s) {st : Stage} (hd : ∀ a rest g, st ≠ .dialing a rest g) :
    ((c.takeTurn t).enter t st).Current s := by
  refine h.of_link h.link (fun _ hu => stage?_enter_of_ne _ _ _ hu) fun a rest g hs => ?_
  exact absurd (Option.some.inj ((stage?_enter_self _ _ _).symm.trans hs)) (hd a rest g)

end Current

section
variable {c : Cluster} {s : Selector}

/-- **Whatever happens, a link that the selector has not outdated leads to a candidate.** -/
theorem handle_current (h : c.Current s) (hc : c.Orderly) (p : Passage) :
    (c.handle s p).cluster.Current s := by
  cases p with
  | start t =>
    have hj : ((c.takeTurn t).enter t .queued).Current s := h.enter nofun
    simp only [handle, start]
    split
    · exact hj.connect
    · exact hj
  | turn t =>
    simp only [handle, turn]
    split
    · split
      · exact h.connect
      · exact h.dropLink _ _
      · exact h
    · exact h
  | dialed t accepted =>
    simp only [handle, dialed]
    split
    · next a rest g hs =>
      have hk := h.dialing t a rest g hs
      have h' : Current { c with connections := c.connections + 1 } s := ⟨h.link, h.dialing⟩
      split
      · exact h'.useLink (hk a List.mem_cons_self)
      · exact h.dialNext (hc.unlinked t a rest g hs) (fun b hb => hk b (List.mem_cons_of_mem _ hb)) s
    · exact h
  | answered t result =>
    have hsettle : ∀ a, ((c.settle a).forget t).Current s := by
      intro a
      refine h.of_link (t := t) ?_ ?_ fun a rest g hs => ?_
      · show ∀ l, (c.settle a).link = some l → _
        rw [settle_link]
        exact h.link
      · exact fun u hu => (stage?_forget_of_ne _ _ hu).trans (settle_stage? _ _ _)
      · cases (stage?_forget_self _ _).symm.trans hs
    simp only [handle, answered]
    split
    · next a k e hs =>
      split
      · have hj : ((c.takeTurn t).enter t (.dropping a e)).Current s := h.enter nofun
        split
        · exact hj.dropLink _ _
        · exact hj
      · exact hsettle _
    · exact hsettle _
    · exact h
  | abandon t =>
    refine h.of_link (t := t) ?_ ?_ fun a rest g hs => ?_
    · exact fun l hl => h.link l ((c.abandon_link t).symm.trans hl)
    · exact fun u hu => (c.abandon_stage? t u).trans (if_neg hu)
    · rw [show (c.handle s (.abandon t)).cluster = (c.abandon t).1 from rfl, abandon_stage?,
        if_pos rfl] at hs
      cases hs

end

/-- The queue is in order, and the link is as new as the selector can tell. -/
structure Tidy (c : Cluster) (s : Selector) : Prop where
  orderly : c.Orderly
  current : c.Current s

theorem initial_tidy (s : Selector) : initial.Tidy s where
  orderly := ⟨List.nodup_nil, by simp [initial, stage?], nofun, nofun⟩
  current := ⟨nofun, nofun⟩

/-- **Whatever happens keeps a connection tidy.** -/
theorem Tidy.handle {c : Cluster} {s : Selector} (h : c.Tidy s) {p : Passage}
    (hp : ∀ t, p = .start t → c.stage? t = none) :
    (c.handle s p).cluster.Tidy (c.handle s p).selector :=
  ⟨handle_orderly h.orderly s hp, (handle_current h.current h.orderly p).later (c.handle_later s p)⟩

end Cluster

end ClusterSession
