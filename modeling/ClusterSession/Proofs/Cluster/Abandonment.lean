/-
  ClusterSession: requests that their callers give up.

  * `Traffic.waitsOn`: the member that a send waits on, for a connection or for its
    answer.
  * `Traffic.Asks`: a send asks the candidates in an order; whoever comes before the
    member that it waits on has refused it.  `step_asks`: so it stays.
  * `abandoned_demoted`: a member that was not waited for while it had a request comes
    last for the next send.  One that was not waited for while it was dialed does not:
    the mark is made by a request that has a connection, and there was none.
-/
import ClusterSession.Proofs.Cluster.Traffic

namespace ClusterSession

namespace Cluster

/-- What becomes of a send that does not wait for its turn: it is over, or about to be, or stays
    where it is, or the member that it dialed has accepted a connection, or refused it. -/
inductive Evolves (c : Cluster) (p : Passage) : Option Stage → Prop
  | ends {st} : (∀ st', st = some st' → ∃ a e, st' = .dropping a e) → Evolves c p st
  | stays : c.refusal? p = none → Evolves c p (c.stage? p.token)
  | accepted {a rest g} : c.stage? p.token = some (.dialing a rest g) → c.refusal? p = none →
      Evolves c p (some (.sending a c.connections))
  | refused {a b rest g} : c.stage? p.token = some (.dialing a (b :: rest) g) →
      c.refusal? p = some (p.token, a) → Evolves c p (some (.dialing b rest g))

theorem Evolves.ended {c : Cluster} {p : Passage} {st : Option Stage} (h : st = none) :
    Evolves c p st :=
  .ends fun _ hs => absurd (h.symm.trans hs) nofun

theorem Evolves.of_eq {c : Cluster} {p : Passage} {st st' : Option Stage} (h : c.Evolves p st')
    (he : st = st') : c.Evolves p st := he ▸ h

/-- **A send goes on as far as it gets.** -/
theorem handle_evolves (c : Cluster) (s : Selector) {p : Passage} (hp : ∀ t, p ≠ .start t)
    (hq : c.stage? p.token ≠ some .queued) :
    c.Evolves p ((c.handle s p).cluster.stage? p.token) := by
  cases p with
  | start t => exact absurd rfl (hp t)
  | turn t =>
    simp only [handle, turn]
    split
    · split
      · next hs => exact absurd hs hq
      · exact .ended (stage?_forget_self _ _)
      · exact .stays rfl
    · exact .stays rfl
  | dialed t accepted =>
    have hno : (∀ a rest g, c.stage? t ≠ some (.dialing a rest g)) →
        c.refusal? (.dialed t accepted) = none := by
      intro hno
      cases accepted with
      | true => rfl
      | false =>
        cases hs : c.stage? t with
        | none => simp only [refusal?, hs]
        | some st =>
          cases st with
          | dialing a rest g => exact absurd hs (hno a rest g)
          | _ => simp only [refusal?, hs]
    simp only [handle, dialed]
    split
    · next a rest g hs =>
      cases accepted with
      | true =>
        exact (Evolves.accepted hs rfl).of_eq (useLink_stage? _ _ _ _)
      | false =>
        cases rest with
        | nil => exact .ended (stage?_forget_self _ _)
        | cons b rest =>
          have hr : c.refusal? (.dialed t false) = some (t, a) := by simp only [refusal?, hs]
          exact (Evolves.refused hs hr).of_eq (stage?_enter_self _ _ _)
    · next hs => exact .stays (hno hs)
  | answered t result =>
    simp only [handle, answered]
    split
    · next a k e hs =>
      split
      · split
        · exact .ended (stage?_forget_self _ _)
        · refine .ends fun st hst => ⟨a, e, ?_⟩
          exact Option.some.inj (hst.symm.trans (stage?_enter_self _ _ _))
      · exact .ended (stage?_forget_self _ _)
    · exact .ended (stage?_forget_self _ _)
    · exact .stays rfl
  | abandon t => exact .ended ((c.abandon_stage? t t).trans (if_pos rfl))

end Cluster

namespace Traffic

/-- The member that a send waits on. -/
def waitsOn (T : Traffic) (t : Token) : Option Address :=
  (T.cluster.stage? t).bind Stage.member?

/-- A member has the request of the send. -/
def carries (T : Traffic) (t : Token) : Bool :=
  match T.cluster.stage? t with
  | some (.sending _ _) => true
  | _ => false

/-- No other send is in progress. -/
def Alone (T : Traffic) (t : Token) : Prop := ∀ u, u ≠ t → T.cluster.stage? u = none

/-- Others do some things to the selector. -/
def selects (T : Traffic) (ops : List Selector.Operation) : Traffic := T.run (ops.map .select)

/-- In `order`, everybody before `a` has refused the send. -/
def Reaches (T : Traffic) (t : Token) (order : List Address) (a : Address) : Prop :=
  ∃ rest, order = T.refusedBy t ++ a :: rest

/-- The send asks the candidates in `order` for a connection, unless it has found one to a member
    that is `exempt`. -/
structure Asks (T : Traffic) (t : Token) (order : List Address) (exempt : Address → Prop) :
    Prop where
  begun : t < T.begun
  looking : T.cluster.stage? t ≠ some .queued
  dialing : ∀ a rest g, T.cluster.stage? t = some (.dialing a rest g) →
    order = T.refusedBy t ++ a :: rest
  sending : ∀ a k, T.cluster.stage? t = some (.sending a k) → exempt a ∨ T.Reaches t order a

section
variable {T : Traffic} {t : Token} {order : List Address} {exempt : Address → Prop}

theorem selects_eq (T : Traffic) (ops : List Selector.Operation) :
    T.selects ops = { T with selector := ops.foldl Selector.apply T.selector } := by
  induction ops generalizing T with
  | nil => rfl
  | cons o rest ih => exact ih _

/-! ## Asking one after another -/

/-- Others are refused. -/
theorem refusedBy_of_ne {T' : Traffic} {x : Option (Token × Address)}
    (h : T'.refusals = T.refusals ++ x.toList) (hx : ∀ y, x = some y → y.1 ≠ t) :
    T'.refusedBy t = T.refusedBy t := by
  unfold refusedBy
  rw [h, List.filter_append, List.map_append]
  cases x with
  | none => simp
  | some y => simp [hx y rfl]

/-- The send is refused once more. -/
theorem refusedBy_concat {T' : Traffic} {a : Address} (h : T'.refusals = T.refusals ++ [(t, a)]) :
    T'.refusedBy t = T.refusedBy t ++ [a] := by
  simp [refusedBy, h]

/-- **Whatever happens, the send asks the candidates in its order.** -/
theorem Asks.pass (h : T.Asks t order exempt) (p : Passage) : (T.pass p).Asks t order exempt := by
  by_cases ha : T.allows p = true
  · have hbegun : t < max T.begun (p.token + 1) := Nat.lt_of_lt_of_le h.begun (Nat.le_max_left _ _)
    have hsame : ∀ T' : Traffic, t < T'.begun → T'.cluster.stage? t = T.cluster.stage? t →
        T'.refusedBy t = T.refusedBy t → T'.Asks t order exempt := by
      intro T' hb hs hr
      refine ⟨hb, hs ▸ h.looking, ?_, ?_⟩
      · rw [hs, hr]; exact h.dialing
      · rw [hs]; unfold Reaches; rw [hr]; exact h.sending
    rw [pass_of_allows ha]
    by_cases hp : t = p.token
    · subst hp
      have hstart : ∀ u, p ≠ .start u := by
        rintro u rfl
        have hu : u = T.begun := by simpa [allows] using ha
        exact Nat.lt_irrefl _ (hu ▸ h.begun)
      have hsilent : T.cluster.refusal? p = none → ∀ {c s n},
          refusedBy ⟨c, s, n, T.refusals ++ (T.cluster.refusal? p).toList⟩ p.token =
            T.refusedBy p.token :=
        fun hr _ _ _ => refusedBy_of_ne (x := none) (by rw [hr]) fun y hy => by cases hy
      have he := T.cluster.handle_evolves T.selector hstart h.looking
      generalize hst : (T.cluster.handle T.selector p).cluster.stage? p.token = st at he
      cases he with
      | ends ho =>
        refine ⟨hbegun, fun hs => ?_, fun _ _ _ hs => ?_, fun _ _ hs => ?_⟩ <;>
          · obtain ⟨a, e, hd⟩ := ho _ (hst.symm.trans hs)
            cases hd
      | stays hr =>
        exact hsame _ hbegun hst (hsilent hr)
      | @accepted a rest g hs hr =>
        refine ⟨hbegun, fun he => ?_, fun _ _ _ he => ?_, fun a' k' he => .inr ⟨rest, ?_⟩⟩
        · cases hst.symm.trans he
        · cases hst.symm.trans he
        · cases hst.symm.trans he
          exact (h.dialing a rest g hs).trans (by rw [hsilent hr])
      | @refused a b rest g hs hr =>
        refine ⟨hbegun, fun he => ?_, fun a' rest' g' he => ?_, fun _ _ he => ?_⟩
        · cases hst.symm.trans he
        · cases hst.symm.trans he
          rw [refusedBy_concat (a := a) (by rw [hr]; rfl), List.append_assoc]
          exact h.dialing a (b :: rest) g hs
        · cases hst.symm.trans he
    · refine hsame _ hbegun (T.cluster.handle_stage_of_ne T.selector p hp) (refusedBy_of_ne rfl ?_)
      intro x hx he
      exact hp (he.symm.trans (Cluster.refusal?_token hx))
  · rw [show T.pass p = T from if_neg ha]
    exact h

theorem step_asks (h : T.Asks t order exempt) (o : Occasion) : (T.step o).Asks t order exempt := by
  cases o with
  | passage p => exact h.pass p
  | select o => exact ⟨h.begun, h.looking, h.dialing, h.sending⟩

/-- The member that the send waits on comes after those that have refused it. -/
theorem Asks.reaches (h : T.Asks t order exempt) {a : Address} (ha : T.waitsOn t = some a) :
    exempt a ∨ T.Reaches t order a := by
  obtain ⟨st, hst, hm⟩ := Option.bind_eq_some_iff.1 ha
  cases st with
  | dialing b rest g => cases hm; exact .inr ⟨rest, h.dialing _ _ _ hst⟩
  | sending b k => cases hm; exact h.sending _ _ hst
  | queued => cases hm
  | dropping b e => cases hm

/-! ## The send after one that was given up -/

/-- Nobody is at the link after the only send is given up. -/
theorem Sound.abandon_free (hT : T.Sound) (h : T.Alone t) :
    (T.pass (.abandon t)).cluster.turns = [] := by
  rw [List.eq_nil_iff_forall_not_mem]
  intro u hu
  obtain ⟨st, hst, -⟩ := ((hT.pass (.abandon t)).tidy.orderly.mem_turns u).1 hu
  have hnone : (T.cluster.abandon t).1.stage? u = none := by
    rw [Cluster.abandon_stage?]
    split
    · rfl
    · next hne => exact h u hne
  exact absurd (hnone.symm.trans hst) nofun

/-- A send whose turn comes asks the candidates, the failed one last, unless it uses the link
    again. -/
theorem Asks.of_connect {T' : Traffic} {c : Cluster} {s : Selector} (hb : t < T'.begun)
    (hc : T'.cluster = (c.connect t s).cluster) (hr : T'.refusedBy t = [])
    (hl : ∀ l, c.link.filter (c.reusable s) = some l → exempt l.address) :
    T'.Asks t (demote c.failed s.candidates) exempt := by
  have hst := Cluster.connect_stage? (c := c) (t := t) (s := s)
  rw [← hc] at hst
  refine ⟨hb, fun he => ?_, fun a rest g he => ?_, fun a k he => .inl ?_⟩
  · replace he := hst.symm.trans he
    split at he <;> cases he
  · rw [hr, List.nil_append]
    replace he := hst.symm.trans he
    split at he
    · cases he
    · next hd => cases he; exact hd
    · cases he
  · replace he := hst.symm.trans he
    cases hlink : c.link.filter (c.reusable s) with
    | some l =>
      rw [hlink] at he
      cases he
      exact hl l hlink
    | none =>
      rw [hlink] at he
      cases hd : demote c.failed s.candidates <;> rw [hd] at he <;> cases he

/-- So does a send that finds nobody at the link. -/
theorem Sound.start_asks (hT : T.Sound) (h : T.cluster.turns = [])
    (hl : ∀ l, T.cluster.link.filter (T.cluster.reusable T.selector) = some l → exempt l.address) :
    (T.pass (.start T.begun)).Asks T.begun (demote T.cluster.failed T.selector.candidates)
      exempt := by
  have hbegun : T.begun < max T.begun (T.begun + 1) :=
    Nat.lt_of_lt_of_le (Nat.lt_succ_self _) (Nat.le_max_right _ _)
  have hnobody : ∀ y : Token × Address, none = some y → y.1 ≠ T.begun := fun _ hy => nomatch hy
  rw [pass_of_allows (p := .start T.begun) (by simp [allows])]
  refine Asks.of_connect (c := (T.cluster.takeTurn T.begun).enter T.begun .queued) hbegun
    (congrArg Routed.cluster (Cluster.start_of_free h)) ?_ hl
  exact (refusedBy_of_ne (T := T) rfl hnobody).trans hT.refusedBy_begun

/-- What the send meets later. -/
theorem Asks.run (h : T.Asks t order exempt) (os : List Occasion) :
    (T.run os).Asks t order exempt :=
  run_of_step (P := fun T => T.Asks t order exempt) (fun _ o hT => step_asks hT o) h os

end

/-- **A member that was not waited for while it had a request comes last.**  Take any connection at
    any time, and let the caller of the only send give it up while it waits on `m`; others may do
    anything to the selector before the next send, and anything may happen after.  If `m` had the
    request, the next send waits on `m` only after every other candidate has refused it.  If `m`
    was being dialed, nothing is remembered: the next send asks the candidates in the order in
    which it would have asked them anyway. -/
theorem abandoned_demoted (strategy : SelectionStrategy) (servers : List Address)
    (os : List Occasion) (t : Token) (m : Address) (ops : List Selector.Operation)
    (os' : List Occasion) :
    let T := (initial strategy servers).run os
    T.Alone t → T.waitsOn t = some m →
    let T₁ := (T.pass (.abandon t)).selects ops
    let T₂ := T₁.run (.passage (.start T₁.begun) :: os')
    (T.carries t = true →
      T₁.cluster.failed = some m ∧
      (T₂.waitsOn T₁.begun = some m →
        ∀ b ∈ T₁.selector.candidates, b ≠ m → b ∈ T₂.refusedBy T₁.begun)) ∧
    (T.carries t = false →
      T₁.cluster.failed = T.cluster.failed ∧
      ∀ b, T₂.waitsOn T₁.begun = some b →
        T₂.Reaches T₁.begun (demote T.cluster.failed T₁.selector.candidates) b) := by
  intro T halone hwaits T₁ T₂
  have hT : T.Sound := run_sound (initial_sound strategy servers) os
  have hT₁ : T₁.Sound := run_sound (hT.pass _) _
  have hfree : T₁.cluster.turns = [] := by
    rw [show T₁.cluster = (T.pass (.abandon t)).cluster by simp only [T₁, selects_eq]]
    exact hT.abandon_free halone
  have hcluster : T₁.cluster = (T.cluster.abandon t).1 := by
    simp only [T₁, selects_eq]
    rfl
  obtain ⟨st, hst, hm⟩ := Option.bind_eq_some_iff.1 hwaits
  have hasks : ∀ exempt : Address → Prop,
      (∀ l, T₁.cluster.link.filter (T₁.cluster.reusable T₁.selector) = some l →
        exempt l.address) →
      ∀ b, T₂.waitsOn T₁.begun = some b → exempt b ∨
        T₂.Reaches T₁.begun (demote T₁.cluster.failed T₁.selector.candidates) b :=
    fun exempt hl b hb => ((hT₁.start_asks hfree hl).run os').reaches hb
  constructor
  · intro hc
    have hfailed : T₁.cluster.failed = some m := by
      cases st with
      | sending a k =>
        cases hm
        rw [hcluster]
        simp only [Cluster.abandon, hst]
        rfl
      | _ => simp [carries, hst] at hc
    refine ⟨hfailed, fun hw b hb hne => ?_⟩
    -- a link to the failed member is not used again
    have hlink : ∀ l, T₁.cluster.link.filter (T₁.cluster.reusable T₁.selector) = some l →
        l.address ≠ m := by
      intro l hl he
      obtain ⟨-, hr⟩ := Option.filter_eq_some_iff.1 hl
      simp [Cluster.reusable, hfailed, he] at hr
    obtain hexempt | ⟨rest, hrest⟩ := hasks (· ≠ m) hlink m hw
    · exact absurd rfl hexempt
    · rw [hfailed] at hrest
      exact mem_before_of_demote hT₁.selector.candidates_nodup hrest b hb hne
  · intro hc
    cases st with
    | dialing a rest g =>
      have hfailed : T₁.cluster.failed = T.cluster.failed := by
        rw [hcluster]
        simp only [Cluster.abandon, hst, Cluster.leave_eq]
        rfl
      refine ⟨hfailed, fun b hb => ?_⟩
      have hlink : T₁.cluster.link = none := by
        rw [hcluster, Cluster.abandon_link]
        exact hT.tidy.orderly.unlinked t a rest g hst
      refine hfailed ▸ (hasks (fun _ => False) (fun l hl => ?_) b hb).resolve_left id
      rw [hlink] at hl
      cases hl
    | sending a k => simp [carries, hst] at hc
    | queued => cases hm
    | dropping a e => cases hm

/-- The first of two members hangs; the other refuses the next send, and only then is it asked
    again. -/
theorem abandoned_demoted_request :
    let T := (initial .any [⟨"a", 5000⟩, ⟨"b", 5000⟩]).run
      [.passage (.start 0), .passage (.dialed 0 true)]
    let T₁ := (T.pass (.abandon 0)).selects [.rewind]
    let T₂ := T₁.run [.passage (.start T₁.begun), .passage (.dialed 1 false)]
    T.Alone 0 ∧ T.waitsOn 0 = some ⟨"a", 5000⟩ ∧ T.carries 0 = true ∧
      T₂.waitsOn T₁.begun = some ⟨"a", 5000⟩ ∧
      ∀ b ∈ T₁.selector.candidates, b ≠ ⟨"a", 5000⟩ → b ∈ T₂.refusedBy T₁.begun := by
  intro T T₁ T₂
  have halone : T.Alone 0 := fun u hu => by
    have hne : (u == 0) = false := beq_false_of_ne hu
    show List.lookup u [_] = none
    rw [List.lookup_cons, hne]
    rfl
  have hwaits : T.waitsOn 0 = some ⟨"a", 5000⟩ := by decide
  have hw : T₂.waitsOn T₁.begun = some ⟨"a", 5000⟩ := by decide
  exact ⟨halone, hwaits, by decide, hw,
    ((abandoned_demoted .any _ _ 0 _ [.rewind] _ halone hwaits).1 (by decide)).2 hw⟩

/-- The first of two members accepts no connection and refuses none; the next send waits on it
    again, although the other member has refused nobody. -/
theorem abandoned_dial_repeats :
    let T := (initial .any [⟨"a", 5000⟩, ⟨"b", 5000⟩]).run [.passage (.start 0)]
    let T₁ := (T.pass (.abandon 0)).selects []
    let T₂ := T₁.run [.passage (.start T₁.begun)]
    T.Alone 0 ∧ T.waitsOn 0 = some ⟨"a", 5000⟩ ∧ T₂.waitsOn T₁.begun = some ⟨"a", 5000⟩ ∧
      ⟨"b", 5000⟩ ∈ T₁.selector.candidates ∧ ⟨"b", 5000⟩ ∉ T₂.refusedBy T₁.begun := by
  intro T T₁ T₂
  refine ⟨fun u hu => ?_, by decide⟩
  have hne : (u == 0) = false := beq_false_of_ne hu
  show List.lookup u [_] = none
  rw [List.lookup_cons, hne]
  rfl

end Traffic

end ClusterSession
