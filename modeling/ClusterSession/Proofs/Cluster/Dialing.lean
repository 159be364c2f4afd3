/-
  ClusterSession: how a send finds a member.

  A send that does not use the link again asks one member after another for a connection,
  from the start of the candidates, until one of them accepts.

  * `dialOrder`: the order in which members are asked, which is that of the candidates with
    the failed one last (`demote_eq_dialOrder`); `askedUntil`: those who are asked.
  * `Cluster.Dials`: a dial from its beginning to its end.  Other sends go on meanwhile, but
    none of them changes the mark of the failed member.
  * `Cluster.Asking`: how a dial stands that has some members left to ask.
  * `handle_of_other`: while a send has its turn, no other changes the selector or makes a
    connection; `Asking.accepted`, `Asking.refused`: what an answer leaves.
  * `dial_in_order`: whom a dial asks, and what it leaves (`Cluster.InOrder`).
-/
import ClusterSession.Proofs.Cluster.Links
import Mathlib.Data.List.TakeWhile

namespace ClusterSession

/-! ## The order -/

/-- The candidates in the order in which they are asked for a connection: the failed one last. -/
def dialOrder (failed : Option Address) (candidates : List Address) : List Address :=
  candidates.filter (failed ≠ some ·) ++ candidates.filter (failed = some ·)

section
variable {candidates : List Address}

theorem dialOrder_perm (failed : Option Address) (candidates : List Address) :
    (dialOrder failed candidates).Perm candidates := by
  have h := List.filter_append_perm (fun a => decide (failed ≠ some a)) candidates
  simpa [dialOrder] using h

/-- A failed member that is not among the candidates makes no difference. -/
theorem demote_eq_dialOrder (failed : Option Address) (h : candidates.Nodup) :
    demote failed candidates = dialOrder failed candidates := by
  cases failed with
  | none => simp [demote, dialOrder]
  | some m =>
    have hothers : candidates.erase m = candidates.filter (some m ≠ some ·) := by
      rw [h.erase_eq_filter]
      exact List.filter_congr fun a _ => Bool.eq_iff_iff.2 (by simp [eq_comm (a := m)])
    have hlast : candidates.filter (some m = some ·) = List.replicate (candidates.count m) m := by
      rw [← List.filter_eq]
      exact List.filter_congr fun a _ => by simp [eq_comm]
    rw [demote, dialOrder, ← hothers, hlast]
    split
    · next hm => rw [List.count_eq_one_of_mem h hm]; rfl
    · next hm => rw [List.erase_of_not_mem hm, List.count_eq_zero_of_not_mem hm]; simp

end

/-- The members that are asked, one after another, until one accepts. -/
def askedUntil (accepts : Address → Bool) (left : List Address) : List Address :=
  left.takeWhile (!accepts ·) ++ (left.find? accepts).toList

theorem askedUntil_sublist (accepts : Address → Bool) (left : List Address) :
    (askedUntil accepts left).Sublist left := by
  have h : (left.find? accepts).toList.Sublist (left.dropWhile (!accepts ·)) := by
    rw [List.find?_eq_head?_dropWhile_not]
    cases left.dropWhile (!accepts ·) with
    | nil => exact List.Sublist.refl _
    | cons a rest => exact List.singleton_sublist.2 List.mem_cons_self
  have hwhole := (List.Sublist.refl (left.takeWhile (!accepts ·))).append h
  rwa [List.takeWhile_append_dropWhile] at hwhole

namespace Cluster

/-! ## Dials -/

/-- A send that has got as far as `r` goes on until it has a connection or has failed: it asks the
    members in `tried`, each of which accepts or refuses, and leaves `r'`.  What happens to other
    sends meanwhile leaves the mark of the failed member as it is. -/
inductive Dials (accepts : Address → Bool) (t : Token) : Routed → List Address → Routed → Prop
  | done {r : Routed} (move : ∀ a, r.move ≠ .dial a) : Dials accepts t r [] r
  | asked {r r' : Routed} {a : Address} {tried : List Address} (move : r.move = .dial a)
      (later : Dials accepts t (r.cluster.handle r.selector (.dialed t (accepts a))) tried r') :
      Dials accepts t r (a :: tried) r'
  | other {r r' : Routed} {a : Address} {tried : List Address} {p : Passage}
      (move : r.move = .dial a) (token : p.token ≠ t)
      (started : ∀ u, p = .start u → r.cluster.stage? u = none)
      (failed : (r.cluster.handle r.selector p).cluster.failed = r.cluster.failed)
      (later : Dials accepts t { r.cluster.handle r.selector p with move := .dial a } tried r') :
      Dials accepts t r tried r'

/-- How a send stands that has begun to ask in the state `s` of the selector, and has the members
    in `left` to ask. -/
inductive Asking (t : Token) (s : Selector) (failed : Option Address) (connections : Nat) :
    List Address → Routed → Prop
  | asks {a : Address} {rest : List Address} {r : Routed} (orderly : r.cluster.Orderly)
      (stage : r.cluster.stage? t = some (.dialing a rest s.generation)) (move : r.move = .dial a)
      (failed' : r.cluster.failed = failed) (connections' : r.cluster.connections = connections)
      (selector : ∃ position, r.selector = { s with position }) :
      Asking t s failed connections (a :: rest) r
  | fails {r : Routed} (link : r.cluster.link = none)
      (move : r.move = .finish (.error .noServersAvailable)) (failed' : r.cluster.failed = failed)
      (selector : r.selector = { s with position := 0 }) : Asking t s failed connections [] r

/-- What a send leaves that has asked, and has got a connection from a member or from none. -/
inductive Found (s : Selector) (failed : Option Address) (connections : Nat) :
    Option Address → Routed → Prop
  | linked {a : Address} {r : Routed} (move : r.move = .forward a connections)
      (link : r.cluster.link =
        some { address := a, generation := s.generation, connection := connections })
      (failed' : r.cluster.failed = failed)
      (selector : ∃ position, r.selector = { s with position }) :
      Found s failed connections (some a) r
  | unlinked {r : Routed} (link : r.cluster.link = none)
      (move : r.move = .finish (.error .noServersAvailable)) (failed' : r.cluster.failed = failed)
      (selector : r.selector = { s with position := 0 }) : Found s failed connections none r

section
variable {c : Cluster} {s s' : Selector} {t : Token} {p : Passage} {failed : Option Address}
  {connections : Nat} {left tried : List Address} {accepts : Address → Bool} {r r' : Routed}

/-- **While a send has its turn**, no other changes the selector or makes a connection. -/
theorem handle_of_other (h : c.Orderly) (ht : c.hasTurn t = true) (hp : p.token ≠ t)
    (hs : ∀ u, p = .start u → c.stage? u = none) :
    (c.handle s p).selector = s ∧ (c.handle s p).cluster.connections = c.connections := by
  have hnot : ¬c.hasTurn p.token = true := fun hu => hp (eq_of_hasTurn ht hu)
  constructor
  · cases p with
    | start u =>
      obtain ⟨rest, hr⟩ := (c.hasTurn_iff t).1 ht
      -- whoever joins the queue now does not come first in it
      have hjoined : ¬((c.takeTurn u).enter u .queued).hasTurn u = true := fun hu =>
        hp (eq_of_hasTurn ((hasTurn_iff _ t).2 ⟨rest ++ [u], by simp [enter, takeTurn, hr]⟩) hu)
      exact congrArg Routed.selector (if_neg hjoined)
    | turn u => exact congrArg Routed.selector (if_neg hnot)
    | dialed u accepted =>
      simp only [handle, dialed]
      split
      · next a rest g hd => exact absurd (h.dialing u a rest g hd) hnot
      · rfl
    | answered u result =>
      simp only [handle, answered]
      split
      · split
        · split
          · rfl
          · rfl
        · rfl
      · rfl
      · rfl
    | abandon u => rfl
  · have hstep := handle_linkStep (s := s) hs
    generalize c.linkEvent? s p = e at hstep
    cases hstep with
    | reuse link link' connections stage => exact connections
    | ask link' connections stage => exact connections
    | make dialing link' connections stage => exact absurd (h.dialing _ _ _ _ dialing) hnot
    | stay link' connections stage => exact connections

/-- A send that has its turn and no link begins to ask. -/
theorem dialNext_asking (h : c.Orderly) (ht : c.hasTurn t = true) (hl : c.link = none)
    (left : List Address) (hs : ∃ position, s' = { s with position }) :
    Asking t s c.failed c.connections left (c.dialNext t left s.generation s') := by
  cases left with
  | nil =>
    obtain ⟨position, rfl⟩ := hs
    exact .fails hl rfl rfl rfl
  | cons a rest =>
    exact .asks (dialNext_orderly h ht hl _ _ _) (stage?_enter_self _ _ _) rfl rfl rfl hs

theorem connect_asking (h : c.Orderly) (ht : c.hasTurn t = true)
    (hl : c.link.filter (c.reusable s) = none) :
    Asking t s c.failed c.connections (demote c.failed s.candidates) (c.connect t s) := by
  rw [connect_of_none hl]
  have h' : Orderly { c with link := none } :=
    ⟨h.nodup, h.mem_turns, h.dialing, fun _ _ _ _ _ => rfl⟩
  exact dialNext_asking h' ht rfl _ ⟨_, rfl⟩

/-- **A send whose turn comes** and that does not use the link again begins to ask. -/
theorem handle_asking (h : c.Orderly) (hs : ∀ u, p = .start u → c.stage? u = none)
    (hp : c.takesTurn p = true) (hl : c.link.filter (c.reusable s) = none) :
    Asking p.token s c.failed c.connections (demote c.failed s.candidates) (c.handle s p) := by
  cases p with
  | start t =>
    have hfree : c.turns = [] := List.isEmpty_iff.1 hp
    have hjoined : ((c.takeTurn t).enter t .queued).Orderly :=
      join_orderly h (h.not_mem_of_absent (hs t rfl)) rfl nofun
    have ht : ((c.takeTurn t).enter t .queued).hasTurn t = true := by
      simp [hasTurn, enter, takeTurn, hfree]
    show Asking t s _ _ _ (c.start t s)
    rw [start_of_free hfree]
    exact connect_asking hjoined ht hl
  | turn t =>
    obtain ⟨ht, hq⟩ := Bool.and_eq_true_iff.1 hp
    have hh : c.handle s (.turn t) = c.connect t s := by
      simp only [handle, turn, ht, of_decide_eq_true hq, if_true]
    rw [hh]
    exact connect_asking h ht hl
  | dialed t accepted => cases hp
  | answered t result => cases hp
  | abandon t => cases hp

theorem Asking.move {a : Address} {rest : List Address}
    (h : Asking t s failed connections (a :: rest) r) : r.move = .dial a := by
  cases h with
  | asks orderly stage move failed' connections' selector => exact move

/-- A member that accepts becomes the link. -/
theorem Asking.accepted {a : Address} {rest : List Address}
    (h : Asking t s failed connections (a :: rest) r) :
    Found s failed connections (some a) (r.cluster.handle r.selector (.dialed t true)) := by
  cases h with
  | asks orderly stage move failed' connections' selector =>
    subst connections'
    simp only [handle, dialed, stage, if_true]
    exact .linked rfl rfl failed' selector

/-- After a member that refuses, the next is asked. -/
theorem Asking.refused {a : Address} {rest : List Address}
    (h : Asking t s failed connections (a :: rest) r) :
    Asking t s failed connections rest (r.cluster.handle r.selector (.dialed t false)) := by
  cases h with
  | asks orderly stage move failed' connections' selector =>
    subst connections' failed'
    simp only [handle, dialed, stage, Bool.false_eq_true, if_false]
    exact dialNext_asking orderly (orderly.dialing _ _ _ _ stage)
      (orderly.unlinked _ _ _ _ stage) rest selector

/-- What happens to another send is nothing to the send that asks. -/
theorem Asking.other {a : Address} (h : Asking t s failed connections left r)
    (hmove : r.move = .dial a) (hp : p.token ≠ t)
    (hs : ∀ u, p = .start u → r.cluster.stage? u = none)
    (hf : (r.cluster.handle r.selector p).cluster.failed = r.cluster.failed) :
    Asking t s failed connections left { r.cluster.handle r.selector p with move := .dial a } := by
  cases h with
  | asks orderly stage move failed' connections' selector =>
    have ht := orderly.dialing _ _ _ _ stage
    obtain ⟨hselector, hconnections⟩ := handle_of_other (s := r.selector) orderly ht hp hs
    refine .asks (handle_orderly orderly _ hs) ?_ (hmove.symm.trans move) (hf.trans failed')
      (hconnections.trans connections') ?_
    · exact (handle_stage_of_ne _ _ _ hp.symm).trans stage
    · exact selector.imp fun _ he => hselector.trans he
  | fails link move failed' selector => cases hmove.symm.trans move

theorem Found.move_ne {found : Option Address} (h : Found s failed connections found r) :
    ∀ a, r.move ≠ .dial a := by
  cases h with
  | linked move link failed' selector => rw [move]; nofun
  | unlinked link move failed' selector => rw [move]; nofun

/-- A send that does not wait for a connection has nobody to ask. -/
theorem Dials.of_done (h : Dials accepts t r tried r') (hmove : ∀ a, r.move ≠ .dial a) :
    tried = [] ∧ r' = r := by
  cases h with
  | done move => exact ⟨rfl, rfl⟩
  | asked move later => exact absurd move (hmove _)
  | other move token started failed later => exact absurd move (hmove _)

/-- **A dial asks one member after another until one accepts.** -/
theorem Dials.found (h : Dials accepts t r tried r') (hr : Asking t s failed connections left r) :
    tried = askedUntil accepts left ∧ Found s failed connections (left.find? accepts) r' := by
  induction h generalizing left with
  | done move =>
    cases hr with
    | asks orderly stage move' failed' connections' selector => exact absurd move' (move _)
    | fails link move' failed' selector => exact ⟨rfl, .unlinked link move' failed' selector⟩
  | @asked r r' a tried move later ih =>
    -- the one that is asked is the first of those who are left
    cases left with
    | nil =>
      cases hr with
      | fails link move' failed' selector => cases move.symm.trans move'
    | cons b rest =>
      cases move.symm.trans hr.move
      cases ha : accepts a with
      | true =>
        rw [ha] at later
        obtain ⟨rfl, rfl⟩ := later.of_done hr.accepted.move_ne
        simpa [askedUntil, ha] using hr.accepted
      | false =>
        rw [ha] at ih
        obtain ⟨rfl, hfound⟩ := ih hr.refused
        simpa [askedUntil, ha] using hfound
  | other move token started failed later ih => exact ih (hr.other move token started failed)

/-- **A dial comes to an end.** -/
theorem Asking.dials (accepts : Address → Bool) (h : Asking t s failed connections left r) :
    ∃ tried r', Dials accepts t r tried r' := by
  induction left generalizing r with
  | nil =>
    cases h with
    | fails link move failed' selector => exact ⟨[], r, .done (by rw [move]; nofun)⟩
  | cons a rest ih =>
    cases ha : accepts a with
    | true =>
      refine ⟨[a], _, .asked h.move (.done ?_)⟩
      rw [ha]
      exact h.accepted.move_ne
    | false =>
      obtain ⟨tried, r', hlater⟩ := ih h.refused
      exact ⟨a :: tried, r', .asked h.move (by rwa [ha])⟩

end

/-- How a dial goes that was begun in the state `s` of the selector: the members in `tried` have
    been asked, and `r` is left. -/
structure InOrder (accepts : Address → Bool) (s : Selector) (failed : Option Address)
    (connections : Nat) (tried : List Address) (r : Routed) : Prop where
  order : tried = askedUntil accepts (dialOrder failed s.candidates)
  once : tried.Nodup
  /-- The first member that accepts becomes the link. -/
  linked : ∀ a, (dialOrder failed s.candidates).find? accepts = some a →
    r.move = .forward a connections ∧
      r.cluster.link = some { address := a, generation := s.generation, connection := connections }
  fails_iff : r.move = .finish (.error .noServersAvailable) ↔ ∀ a ∈ s.candidates, accepts a = false
  /-- Without a member that accepts there is no link, and the candidates start over. -/
  unlinked : r.move = .finish (.error .noServersAvailable) →
    r.cluster.link = none ∧ r.selector = { s with position := 0 }
  mark : r.cluster.failed = failed
  selector : ∃ position, r.selector = { s with position }

theorem Found.inOrder {s : Selector} {failed : Option Address} {connections : Nat}
    {accepts : Address → Bool} {r : Routed} (h : s.candidates.Nodup)
    (hr : Found s failed connections ((dialOrder failed s.candidates).find? accepts) r) :
    InOrder accepts s failed connections (askedUntil accepts (dialOrder failed s.candidates))
      r := by
  have hperm := dialOrder_perm failed s.candidates
  have honce : (askedUntil accepts (dialOrder failed s.candidates)).Nodup :=
    (hperm.nodup_iff.2 h).sublist (askedUntil_sublist _ _)
  have hnone : (dialOrder failed s.candidates).find? accepts = none ↔
      ∀ a ∈ s.candidates, accepts a = false := by
    simp [List.find?_eq_none, hperm.mem_iff]
  generalize hfound : (dialOrder failed s.candidates).find? accepts = found at hr hnone
  cases hr with
  | @linked a _ move link failed' selector =>
    refine ⟨rfl, honce, fun b hb => ?_, ?_, fun he => ?_, failed', selector⟩
    · cases hfound.symm.trans hb
      exact ⟨move, link⟩
    · exact iff_of_false (fun he => by cases move.symm.trans he) fun hall => by cases hnone.2 hall
    · cases move.symm.trans he
  | unlinked link move failed' selector =>
    refine ⟨rfl, honce, fun b hb => ?_, iff_of_true move (hnone.1 rfl), fun _ => ⟨link, selector⟩,
      failed', _, selector⟩
    cases hfound.symm.trans hb

end Cluster

namespace Traffic

/-- The same connection with another mark of the failed member. -/
def marked (failed : Option Address) (T : Traffic) : Traffic :=
  { T with cluster := { T.cluster with failed } }

theorem Sound.marked {T : Traffic} (h : T.Sound) (failed : Option Address) :
    (T.marked failed).Sound where
  tidy :=
    { orderly := ⟨h.tidy.orderly.nodup, h.tidy.orderly.mem_turns, h.tidy.orderly.dialing,
        h.tidy.orderly.unlinked⟩
      current := ⟨h.tidy.current.link, h.tidy.current.dialing⟩ }
  selector := h.selector
  named := h.named
  refusals := h.refusals

/-- **A send asks the candidates in order**, the failed one last and nobody twice, until one accepts
    and becomes the link, or fails when all of them have refused. -/
theorem dial_in_order (strategy : SelectionStrategy) (servers : List Address) (os : List Occasion)
    (failed : Option Address) (accepts : Address → Bool) (p : Passage) :
    let T := ((initial strategy servers).run os).marked failed
    T.allows p = true → T.cluster.takesTurn p = true →
      T.cluster.link.filter (T.cluster.reusable T.selector) = none →
      (∃ tried r, Cluster.Dials accepts p.token (T.cluster.handle T.selector p) tried r) ∧
        ∀ tried r, Cluster.Dials accepts p.token (T.cluster.handle T.selector p) tried r →
          Cluster.InOrder accepts T.selector failed T.cluster.connections tried r := by
  intro T ha hp hl
  have hT : T.Sound := (run_sound (initial_sound strategy servers) os).marked failed
  have hnodup := hT.selector.candidates_nodup
  have hasking := Cluster.handle_asking hT.tidy.orderly (hT.start_absent ha) hp hl
  refine ⟨hasking.dials accepts, fun tried r hdials => ?_⟩
  obtain ⟨rfl, hfound⟩ := hdials.found hasking
  rw [demote_eq_dialOrder _ hnodup] at hfound ⊢
  exact hfound.inOrder hnodup

/-- Of three members the second has failed, and nobody else accepts: it is asked last, whatever the
    candidates have been handed out for before. -/
theorem dial_in_order_last :
    let T := ((initial .any [⟨"a", 5000⟩, ⟨"b", 5000⟩, ⟨"c", 5000⟩]).run [.select .next]).marked
      (some ⟨"b", 5000⟩)
    T.allows (.start 0) = true ∧ T.cluster.takesTurn (.start 0) = true ∧
      T.cluster.link.filter (T.cluster.reusable T.selector) = none ∧
      ∃ r, Cluster.Dials (· = ⟨"b", 5000⟩) 0 (T.cluster.handle T.selector (.start 0))
          [⟨"a", 5000⟩, ⟨"c", 5000⟩, ⟨"b", 5000⟩] r ∧
        r.cluster.link = some { address := ⟨"b", 5000⟩, generation := 1, connection := 0 } := by
  intro T
  obtain ⟨⟨tried, r, hdials⟩, hall⟩ :=
    dial_in_order .any [⟨"a", 5000⟩, ⟨"b", 5000⟩, ⟨"c", 5000⟩] [.select .next] (some ⟨"b", 5000⟩)
      (· = ⟨"b", 5000⟩) (.start 0) (by decide) (by decide) (by decide)
  have hin := hall tried r hdials
  have horder : tried = [⟨"a", 5000⟩, ⟨"c", 5000⟩, ⟨"b", 5000⟩] := hin.order
  exact ⟨by decide, by decide, by decide, r, horder ▸ hdials, (hin.linked _ (by decide)).2⟩

end Traffic

end ClusterSession
