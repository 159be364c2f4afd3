/-
  ClusterSession: members under suspicion.

  Sends end in any order, whoever carries the link by then, and a caller may give up a
  send at any time.

  * `Ending`: how a send ends that a member has carried; `Traffic.endLog` is all the ends
    there have been, in order.
  * `Suspect`: a send of the member has ended badly, and since then no send of the member
    has completed, and none of another member has ended badly.
  * `Cluster.handle_failed`: what a passage does to the mark of a failed member.
  * `Traffic.run_marked`: the mark is on the suspect, at any time.
  * `suspect_avoided`: a suspect is not used again, and is dialed after all others.
-/
import ClusterSession.Proofs.Cluster.Abandonment
import ClusterSession.Proofs.Cluster.Links

namespace ClusterSession

/-! ## How sends end -/

/-- How a send ends that a member has carried. -/
inductive Ending where
  /-- It ends with a connection error, or the member has not answered in time. -/
  | broken (t : Token) (a : Address)
  /-- Its caller has given it up. -/
  | abandoned (t : Token) (a : Address)
  /-- It ends with a response, or with another error. -/
  | completed (t : Token) (a : Address)
deriving DecidableEq

namespace Ending

/-- It speaks against the member. -/
def Blames (m : Address) (e : Ending) : Prop := ∃ t, e = .broken t m ∨ e = .abandoned t m

/-- It puts an end to a suspicion against the member. -/
def Clears (m : Address) (e : Ending) : Prop :=
  (∃ t, e = .completed t m) ∨ ∃ b, b ≠ m ∧ e.Blames b

/-- What the end of a send leaves of the mark. -/
def mark (failed : Option Address) : Ending → Option Address
  | broken _ a | abandoned _ a => some a
  | completed _ a => if failed = some a then none else failed

end Ending

/-- A send of the member has ended badly, and nothing has put an end to the suspicion since. -/
def Suspect (log : List Ending) (m : Address) : Prop := Lately (Ending.Blames m) (Ending.Clears m) log

/-- The member that has carried the send, also while the send waits to drop the link. -/
def Stage.bearer? : Stage → Option Address
  | sending a _ | dropping a _ => some a
  | queued | dialing _ _ _ => none

/-- The error speaks against the member that has carried the send. -/
def ConnectionError.isGrave (e : ConnectionError) : Bool := e.breaksLink || e.isTimeout

/-- How the move ends a send that `a` has carried. -/
def Move.ending? (t : Token) (a : Address) : Move → Option Ending
  | finish (.error e) => some (if e.isGrave then .broken t a else .completed t a)
  | finish (.ok _) => some (.completed t a)
  | wait | dial _ | forward _ _ => none

/-- How the passage ends a send that `a` has carried. -/
def Passage.ending? (a : Address) (move : Move) : Passage → Option Ending
  | .abandon t => some (.abandoned t a)
  | p => move.ending? p.token a

namespace Cluster

/-- The end of a send that a member has carried. -/
def ending? (c : Cluster) (s : Selector) (p : Passage) : Option Ending :=
  ((c.stage? p.token).bind Stage.bearer?).bind fun a => p.ending? a (c.handle s p).move

/-- Whoever waits to drop the link has a reason. -/
def Grave (c : Cluster) : Prop :=
  ∀ t a e, c.stage? t = some (.dropping a e) → e.isGrave = true

section
variable {c : Cluster} {s : Selector} {p : Passage}

/-- A send that goes on waiting does not end. -/
theorem ending?_of_wait (hp : ∀ t, p ≠ .abandon t) (hm : (c.handle s p).move = .wait) :
    c.ending? s p = none := by
  unfold ending?
  rw [hm]
  cases (c.stage? p.token).bind Stage.bearer? with
  | none => rfl
  | some a =>
    cases p with
    | abandon t => exact absurd rfl (hp t)
    | _ => rfl

theorem settle_failed (c : Cluster) (a : Address) :
    (c.settle a).failed = if c.failed = some a then none else c.failed := by
  unfold settle; split <;> rfl

theorem connect_failed (c : Cluster) (t : Token) (s : Selector) :
    (c.connect t s).cluster.failed = c.failed := by
  cases hl : c.link.filter (c.reusable s) with
  | some l => rw [connect_of_reusable hl]; rfl
  | none =>
    rw [connect_of_none hl]
    cases demote c.failed s.candidates <;> rfl

/-- What the end of a send does to the link and to the mark of a failed member. -/
inductive EndStep (c : Cluster) (s : Selector) (p : Passage) : Option Ending → Cluster → Prop
  /-- The send, whose turn has come, looks at the link. -/
  | connects {c₀ : Cluster} (turn : c.takesTurn p = true) (link : c₀.link = c.link)
      (failed : c₀.failed = c.failed) : EndStep c s p none (c₀.connect p.token s).cluster
  /-- The send has waited for a connection. -/
  | dials {a : Address} {rest : List Address} {g : Nat} {c' : Cluster}
      (dialing : c.stage? p.token = some (.dialing a rest g)) (failed' : c'.failed = c.failed) :
      EndStep c s p none c'
  | drops {a : Address} {c' : Cluster} (link' : c'.link = c.link.filter (·.address ≠ a))
      (failed' : c'.failed = some a) : EndStep c s p (some (.broken p.token a)) c'
  | completes {a : Address} {c' : Cluster} (link' : c'.link = c.link)
      (failed' : c'.failed = if c.failed = some a then none else c.failed) :
      EndStep c s p (some (.completed p.token a)) c'
  | abandons {a : Address} {c' : Cluster} (link' : c'.link = c.link) (failed' : c'.failed = some a) :
      EndStep c s p (some (.abandoned p.token a)) c'
  | stays {c' : Cluster} (link' : c'.link = c.link) (failed' : c'.failed = c.failed) :
      EndStep c s p none c'

/-- The end of a send is what its member makes of it. -/
theorem EndStep.of_borne {a : Address} {st : Stage} {e : Option Ending}
    (h : c.EndStep s p e (c.handle s p).cluster) (hs : c.stage? p.token = some st)
    (ha : st.bearer? = some a) (he : p.ending? a (c.handle s p).move = e) :
    c.EndStep s p (c.ending? s p) (c.handle s p).cluster := by
  rw [ending?, hs, Option.bind_some, ha, Option.bind_some, he]
  exact h

/-- A send that no member has carried ends without a word about any. -/
theorem EndStep.of_unborne (h : c.EndStep s p none (c.handle s p).cluster)
    (hs : (c.stage? p.token).bind Stage.bearer? = none) :
    c.EndStep s p (c.ending? s p) (c.handle s p).cluster := by
  rw [ending?, hs]
  exact h

/-- A send that goes on waiting leaves the link and the mark alone. -/
theorem EndStep.of_idle {c' : Cluster} (hp : ∀ t, p ≠ .abandon t) (hh : c.handle s p = c'.idle s)
    (hl : c'.link = c.link) (hf : c'.failed = c.failed) :
    c.EndStep s p (c.ending? s p) (c.handle s p).cluster := by
  rw [ending?_of_wait hp (by rw [hh]; rfl), hh]
  exact .stays hl hf

/-- The send has its turn, and drops the link to its member. -/
theorem EndStep.of_dropLink {c' : Cluster} {a : Address} {st : Stage} {e : ConnectionError}
    (hp : ∀ t, p ≠ .abandon t) (hs : c.stage? p.token = some st) (ha : st.bearer? = some a)
    (he : e.isGrave = true) (hh : c.handle s p = c'.dropLink p.token a e s)
    (hl : c'.link = c.link) : c.EndStep s p (c.ending? s p) (c.handle s p).cluster := by
  refine EndStep.of_borne (e := some (.broken p.token a)) ?_ hs ha ?_
  · rw [hh]
    exact .drops (congrArg (Option.filter fun l : Link => decide (l.address ≠ a)) hl) rfl
  · rw [hh]
    cases p with
    | abandon t => exact absurd rfl (hp t)
    | _ => simp only [dropLink, Passage.ending?, Move.ending?, he, if_true]

theorem start_endStep {t : Token} (ht : t ∉ c.turns) (hturn : c.takesTurn (.start t) = false) :
    c.EndStep s (.start t) (c.ending? s (.start t)) (c.handle s (.start t)).cluster := by
  have hh : c.handle s (.start t) = ((c.takeTurn t).enter t .queued).idle s := by
    refine if_neg fun h => ?_
    obtain ⟨rest, hr⟩ := (hasTurn_iff _ t).1 h
    cases hturns : c.turns with
    | nil => simp [takesTurn, hturns] at hturn
    | cons u others =>
      have hu : c.turns ++ [t] = t :: rest := hr
      rw [hturns, List.cons_append] at hu
      rw [hturns, (List.cons.inj hu).1] at ht
      exact ht List.mem_cons_self
  exact .of_idle nofun hh rfl rfl

theorem turn_endStep {t : Token} (hc : c.Grave) (hturn : c.takesTurn (.turn t) = false) :
    c.EndStep s (.turn t) (c.ending? s (.turn t)) (c.handle s (.turn t)).cluster := by
  by_cases ht : c.hasTurn t = true
  · have hh : c.handle s (.turn t) = _ := if_pos ht
    cases hs : c.stage? t with
    | none => exact .of_idle nofun (by rw [hh, hs]) rfl rfl
    | some st =>
      cases st with
      | queued => simp [takesTurn, ht, hs] at hturn
      | dropping a e => exact .of_dropLink nofun hs rfl (hc t a e hs) (by rw [hh, hs]; rfl) rfl
      | dialing a rest g => exact .of_idle nofun (by rw [hh, hs]) rfl rfl
      | sending a k => exact .of_idle nofun (by rw [hh, hs]) rfl rfl
  · exact .of_idle nofun (if_neg ht) rfl rfl

theorem dialed_endStep (t : Token) (accepted : Bool) :
    c.EndStep s (.dialed t accepted) (c.ending? s (.dialed t accepted))
      (c.handle s (.dialed t accepted)).cluster := by
  cases hs : c.stage? t with
  | none => exact .of_idle nofun (by simp only [handle, dialed, hs]) rfl rfl
  | some st =>
    cases st with
    | dialing a rest g =>
      refine EndStep.of_unborne (.dials hs ?_) (by rw [Passage.token, hs]; rfl)
      simp only [handle, dialed, hs]
      cases accepted with
      | true => rfl
      | false => cases rest <;> rfl
    | _ => exact .of_idle nofun (by simp only [handle, dialed, hs]) rfl rfl

/-- A send that completes leaves the link alone. -/
theorem EndStep.of_settle {t : Token} {a : Address} {k : Nat}
    {result : Except ConnectionError Response} (hs : c.stage? t = some (.sending a k))
    (hr : ∀ e, result = .error e → e.isGrave = false) :
    c.EndStep s (.answered t result) (c.ending? s (.answered t result))
      (c.handle s (.answered t result)).cluster := by
  refine EndStep.of_borne (a := a) (e := some (.completed t a)) ?_ hs rfl ?_
  · cases result with
    | ok r =>
      simp only [handle, answered, hs]
      exact .completes (settle_link c a) (settle_failed c a)
    | error e =>
      have he : (e.breaksLink || e.isTimeout) = false := hr e rfl
      simp only [handle, answered, hs, he, Bool.false_eq_true, if_false]
      exact .completes (settle_link c a) (settle_failed c a)
  · cases result with
    | ok r => simp only [handle, answered, hs]; rfl
    | error e =>
      have he : (e.breaksLink || e.isTimeout) = false := hr e rfl
      simp only [handle, answered, hs, he, Bool.false_eq_true, if_false, Passage.ending?, Move.ending?,
        hr e rfl, Passage.token]

theorem answered_endStep (t : Token) (result : Except ConnectionError Response) :
    c.EndStep s (.answered t result) (c.ending? s (.answered t result))
      (c.handle s (.answered t result)).cluster := by
  have hstays : ∀ u, Passage.answered t result ≠ .abandon u := nofun
  cases hs : c.stage? t with
  | none => exact .of_idle hstays (by simp only [handle, answered, hs]) rfl rfl
  | some st =>
    cases st with
    | sending a k =>
      cases result with
      | ok r => exact .of_settle hs fun e h => by cases h
      | error e =>
        cases he : e.isGrave with
        | false => exact .of_settle hs fun e' h => by cases h; exact he
        | true =>
          have hb : (e.breaksLink || e.isTimeout) = true := he
          let joined := (c.takeTurn t).enter t (.dropping a e)
          by_cases ht : joined.hasTurn t = true
          · have hh : c.handle s (.answered t (.error e)) = joined.dropLink t a e s := by
              simp only [handle, answered, hs, hb, if_true]
              exact if_pos ht
            exact .of_dropLink hstays hs rfl he hh rfl
          · have hh : c.handle s (.answered t (.error e)) = joined.idle s := by
              simp only [handle, answered, hs, hb, if_true]
              exact if_neg ht
            exact .of_idle hstays hh rfl rfl
    | _ => exact .of_idle hstays (by simp only [handle, answered, hs]) rfl rfl

theorem abandon_endStep (t : Token) :
    c.EndStep s (.abandon t) (c.ending? s (.abandon t)) (c.handle s (.abandon t)).cluster := by
  have hl := c.abandon_link t
  cases hs : c.stage? t with
  | none =>
    refine EndStep.of_unborne (.stays hl ?_) (by rw [Passage.token, hs]; rfl)
    simp only [handle, abandon, hs]
  | some st =>
    cases st with
    | queued | dialing =>
      refine EndStep.of_unborne (.stays hl ?_) (by rw [Passage.token, hs]; rfl)
      simp only [handle, abandon, hs, leave_eq]
      rfl
    | sending a k | dropping a e =>
      refine EndStep.of_borne (a := a) (.abandons hl ?_) hs rfl rfl
      simp only [handle, abandon, hs, leave_eq]
      rfl

/-- **What a passage does to the link and to the mark.** -/
theorem handle_endStep (hc : c.Grave) (ho : c.Orderly)
    (hp : ∀ t, p = .start t → c.stage? t = none) :
    c.EndStep s p (c.ending? s p) (c.handle s p).cluster := by
  by_cases hturn : c.takesTurn p = true
  · obtain ⟨c₀, hl, hf, hh⟩ := handle_of_takesTurn hturn s
    refine EndStep.of_unborne (hh ▸ .connects hturn hl hf) ?_
    cases p with
    | start t => rw [Passage.token, hp t rfl]; rfl
    | turn t => rw [Passage.token, of_decide_eq_true (Bool.and_eq_true_iff.1 hturn).2]; rfl
    | _ => cases hturn
  · replace hturn := Bool.eq_false_iff.2 hturn
    cases p with
    | start t => exact start_endStep (ho.not_mem_of_absent (hp t rfl)) hturn
    | turn t => exact turn_endStep hc hturn
    | dialed t accepted => exact dialed_endStep t accepted
    | answered t result => exact answered_endStep t result
    | abandon t => exact abandon_endStep t

/-- **Whoever joins the queue to drop the link has a reason.** -/
theorem handle_grave (hc : c.Grave) (s : Selector) (p : Passage) :
    (c.handle s p).cluster.Grave := by
  intro u a e hu
  by_cases hp : u = p.token
  · subst hp
    cases p with
    | start t =>
      simp only [handle, start] at hu
      split at hu
      · replace hu := connect_stage?.symm.trans hu
        split at hu <;> cases hu
      · cases (stage?_enter_self _ _ _).symm.trans hu
    | turn t =>
      simp only [handle, turn] at hu
      split at hu
      · split at hu
        · replace hu := connect_stage?.symm.trans hu
          split at hu <;> cases hu
        · cases (stage?_forget_self _ _).symm.trans hu
        · exact hc t a e hu
      · exact hc t a e hu
    | dialed t accepted =>
      simp only [handle, dialed] at hu
      split at hu
      · next b rest g hs =>
        cases accepted with
        | true => cases (useLink_stage? _ _ _ _).symm.trans hu
        | false =>
          cases rest with
          | nil => cases (stage?_forget_self _ _).symm.trans hu
          | cons b rest => cases (stage?_enter_self _ _ _).symm.trans hu
      · exact hc t a e hu
    | answered t result =>
      simp only [handle, answered] at hu
      split at hu
      · split at hu
        · next he =>
          split at hu
          · cases (stage?_forget_self _ _).symm.trans hu
          · cases (stage?_enter_self _ _ _).symm.trans hu
            exact he
        · cases (stage?_forget_self _ _).symm.trans hu
      · cases (stage?_forget_self _ _).symm.trans hu
      · exact hc t a e hu
    | abandon t =>
      cases ((c.abandon_stage? t t).trans (if_pos rfl)).symm.trans hu
  · exact hc u a e ((c.handle_stage_of_ne s p hp).symm.trans hu)

/-- Whoever waits for its first turn has met no refusal just now, and has waited before or has just
    been started. -/
theorem handle_queued (h : (c.handle s p).cluster.stage? p.token = some .queued) :
    c.refusal? p = none ∧ (c.stage? p.token = some .queued ∨ p = .start p.token) := by
  by_cases hp : ∃ t, p = .start t
  · obtain ⟨t, rfl⟩ := hp
    exact ⟨rfl, .inr rfl⟩
  by_cases hq : c.stage? p.token = some .queued
  · refine ⟨?_, .inl hq⟩
    unfold refusal?
    split
    · next t => rw [show c.stage? t = some .queued from hq]
    · rfl
  · have he := c.handle_evolves s (fun t ht => hp ⟨t, ht⟩) hq
    generalize hst : (c.handle s p).cluster.stage? p.token = st at he
    cases he with
    | ends ho =>
      obtain ⟨a, e, hd⟩ := ho _ (hst.symm.trans h)
      cases hd
    | stays => exact absurd (hst.symm.trans h) hq
    | accepted => cases hst.symm.trans h
    | refused => cases hst.symm.trans h

end

end Cluster

/-! ## Suspicion -/

namespace Ending
variable {t : Token} {a m : Address}

@[simp] theorem blames_broken : (broken t a).Blames m ↔ a = m :=
  ⟨fun ⟨_, h⟩ => by rcases h with h | h <;> cases h; rfl, fun h => ⟨t, .inl (h ▸ rfl)⟩⟩

@[simp] theorem blames_abandoned : (abandoned t a).Blames m ↔ a = m :=
  ⟨fun ⟨_, h⟩ => by rcases h with h | h <;> cases h; rfl, fun h => ⟨t, .inr (h ▸ rfl)⟩⟩

@[simp] theorem not_blames_completed : ¬(completed t a).Blames m := by
  rintro ⟨u, h | h⟩ <;> cases h

@[simp] theorem clears_broken : (broken t a).Clears m ↔ a ≠ m := by
  simp [Clears, eq_comm (a := a), and_comm]

@[simp] theorem clears_abandoned : (abandoned t a).Clears m ↔ a ≠ m := by
  simp [Clears, eq_comm (a := a), and_comm]

@[simp] theorem clears_completed : (completed t a).Clears m ↔ a = m := by
  simp [Clears]

end Ending

theorem suspect_concat {log : List Ending} {e : Ending} {m : Address} :
    Suspect (log ++ [e]) m ↔ e.Blames m ∨ Suspect log m ∧ ¬e.Clears m :=
  lately_concat

/-- **The mark follows the log.** -/
theorem mark_iff_suspect {log : List Ending} {failed : Option Address}
    (h : ∀ m, failed = some m ↔ Suspect log m) (e : Ending) (m : Address) :
    e.mark failed = some m ↔ Suspect (log ++ [e]) m := by
  rw [suspect_concat]
  cases e with
  | broken t a => simp [Ending.mark]
  | abandoned t a => simp [Ending.mark]
  | completed t a =>
    simp only [Ending.mark, Ending.not_blames_completed, Ending.clears_completed, false_or, ← h m]
    split
    · next hf => simp [hf]
    · next hf => exact ⟨fun hm => ⟨hm, fun ha => hf (ha ▸ hm)⟩, And.left⟩

namespace Traffic

/-- The end of a send that the occasion brings. -/
def ending? (T : Traffic) : Occasion → Option Ending
  | .passage p => if T.allows p then T.cluster.ending? T.selector p else none
  | .select _ => none

/-- All the ends of sends. -/
def endLog (T : Traffic) : List Occasion → List Ending
  | [] => []
  | o :: rest => (T.ending? o).toList ++ endLog (T.step o) rest

theorem endLog_concat (T : Traffic) (os : List Occasion) (o : Occasion) :
    T.endLog (os ++ [o]) = T.endLog os ++ ((T.run os).ending? o).toList := by
  induction os generalizing T with
  | nil => simp [endLog, run]
  | cons o' rest ih =>
    rw [List.cons_append, endLog, ih, endLog, List.append_assoc]
    rfl

/-- The mark is on the suspect; whoever waits to drop the link has a reason, and whoever waits for
    its first turn has met no refusal. -/
structure Marked (T : Traffic) (log : List Ending) : Prop where
  failed : ∀ m, T.cluster.failed = some m ↔ Suspect log m
  grave : T.cluster.Grave
  unrefused : ∀ t, T.cluster.stage? t = some .queued → T.refusedBy t = []

section
variable {T : Traffic} {log : List Ending} {p : Passage}

theorem Marked.pass (h : T.Marked log) (hT : T.Sound) (ha : T.allows p = true) :
    (T.pass p).Marked (log ++ (T.cluster.ending? T.selector p).toList) := by
  have hstep := Cluster.handle_endStep (s := T.selector) h.grave hT.tidy.orderly (hT.start_absent ha)
  rw [pass_of_allows ha]
  refine ⟨fun m => ?_, Cluster.handle_grave h.grave T.selector p, fun t ht => ?_⟩
  · show (T.cluster.handle T.selector p).cluster.failed = some m ↔ _
    have hsame : ∀ c : Cluster, c.failed = T.cluster.failed →
        (c.failed = some m ↔ Suspect (log ++ []) m) := fun c hf => by
      rw [hf, List.append_nil]
      exact h.failed m
    generalize T.cluster.ending? T.selector p = e at hstep
    generalize (T.cluster.handle T.selector p).cluster = c at hstep
    cases hstep with
    | connects turn link failed => exact hsame _ ((Cluster.connect_failed _ _ _).trans failed)
    | dials dialing failed' => exact hsame _ failed'
    | stays link' failed' => exact hsame _ failed'
    | @drops a c link' failed' =>
      rw [failed']
      exact mark_iff_suspect h.failed (.broken p.token a) m
    | @abandons a c link' failed' =>
      rw [failed']
      exact mark_iff_suspect h.failed (.abandoned p.token a) m
    | @completes a c link' failed' =>
      rw [failed']
      exact mark_iff_suspect h.failed (.completed p.token a) m
  · by_cases hp : t = p.token
    · subst hp
      obtain ⟨hr, hq⟩ := Cluster.handle_queued ht
      refine (refusedBy_of_ne (T := T) (x := none) (by rw [hr]) nofun).trans ?_
      rcases hq with hq | hq
      · exact h.unrefused _ hq
      · have hb : p.token = T.begun := by
          rw [hq] at ha
          exact of_decide_eq_true ha
        rw [hb]
        exact hT.refusedBy_begun
    · rw [refusedBy_of_ne (T := T) rfl fun x hx he => hp (he.symm.trans (Cluster.refusal?_token hx))]
      exact h.unrefused t (T.cluster.handle_stage_of_ne T.selector p hp ▸ ht)

theorem Marked.step (h : T.Marked log) (hT : T.Sound) (o : Occasion) :
    (T.step o).Marked (log ++ (T.ending? o).toList) := by
  cases o with
  | passage p =>
    by_cases ha : T.allows p = true
    · rw [ending?, if_pos ha]
      exact h.pass hT ha
    · rw [ending?, if_neg ha, Traffic.step, Traffic.pass, if_neg ha, Option.toList_none,
        List.append_nil]
      exact h
  | select o =>
    rw [ending?, Option.toList_none, List.append_nil]
    exact ⟨h.failed, h.grave, h.unrefused⟩

end

theorem initial_marked (strategy : SelectionStrategy) (servers : List Address) :
    (initial strategy servers).Marked [] where
  failed _ := iff_of_false nofun not_lately_nil
  grave := nofun
  unrefused := nofun

/-- **At any time, the mark is on the suspect.** -/
theorem run_marked (strategy : SelectionStrategy) (servers : List Address) (os : List Occasion) :
    ((initial strategy servers).run os).Marked ((initial strategy servers).endLog os) := by
  induction os using List.reverseRecOn with
  | nil => exact initial_marked strategy servers
  | append_singleton os o ih =>
    rw [run_concat, endLog_concat]
    exact ih.step (run_sound (initial_sound strategy servers) os) o

/-! ## Avoiding a suspect -/

/-- The send has looked at the link; if `m` carries it, that is over a connection numbered from `n`
    on. -/
structure Renews (T : Traffic) (t : Token) (m : Address) (n : Nat) : Prop where
  begun : t < T.begun
  looked : T.cluster.stage? t ≠ some .queued
  connections : n ≤ T.cluster.connections
  sending : ∀ k, T.cluster.stage? t = some (.sending m k) → n ≤ k

section
variable {T : Traffic} {t : Token} {m : Address} {n : Nat} {p : Passage}

theorem connections_le (hT : T.Sound) (ha : T.allows p = true) :
    T.cluster.connections ≤ (T.cluster.handle T.selector p).cluster.connections := by
  have hstep := Cluster.handle_linkStep (s := T.selector) (hT.start_absent ha)
  generalize T.cluster.linkEvent? T.selector p = e at hstep
  cases hstep with
  | make dialing link' connections stage => rw [connections]; exact Nat.le_succ _
  | reuse link link' connections stage => exact Nat.le_of_eq connections.symm
  | ask link' connections stage => exact Nat.le_of_eq connections.symm
  | stay link' connections stage => exact Nat.le_of_eq connections.symm

/-- **Whatever happens, the send gets a new connection to the member, or none.** -/
theorem Renews.pass (h : T.Renews t m n) (hT : T.Sound) (p : Passage) : (T.pass p).Renews t m n := by
  by_cases ha : T.allows p = true
  · have hbegun : t < max T.begun (p.token + 1) := Nat.lt_of_lt_of_le h.begun (Nat.le_max_left _ _)
    have hconnections := Nat.le_trans h.connections (connections_le hT ha)
    rw [pass_of_allows ha]
    by_cases hp : t = p.token
    · subst hp
      have hstart : ∀ u, p ≠ .start u := by
        rintro u rfl
        exact Nat.lt_irrefl _ ((of_decide_eq_true ha : u = T.begun) ▸ h.begun)
      have he := T.cluster.handle_evolves T.selector hstart h.looked
      generalize hst : (T.cluster.handle T.selector p).cluster.stage? p.token = st at he
      refine ⟨hbegun, fun hq => ?_, hconnections, fun k hk => ?_⟩
      · replace hq := hst.symm.trans hq
        cases he with
        | ends ho =>
          obtain ⟨a, e, hd⟩ := ho _ hq
          cases hd
        | stays => exact h.looked hq
        | accepted => cases hq
        | refused => cases hq
      · replace hk := hst.symm.trans hk
        cases he with
        | ends ho =>
          obtain ⟨a, e, hd⟩ := ho _ hk
          cases hd
        | stays => exact h.sending k hk
        | accepted => cases hk; exact h.connections
        | refused => cases hk
    · have hs := T.cluster.handle_stage_of_ne T.selector p hp
      exact ⟨hbegun, fun hq => h.looked (hs.symm.trans hq), hconnections,
        fun k hk => h.sending k (hs.symm.trans hk)⟩
  · rw [show T.pass p = T from if_neg ha]
    exact h

theorem Renews.run (h : T.Renews t m n) (hT : T.Sound) (os : List Occasion) :
    (T.run os).Renews t m n := by
  refine (run_of_step (P := fun T => T.Sound ∧ T.Renews t m n) ?_ ⟨hT, h⟩ os).2
  rintro T o ⟨hT, h⟩
  refine ⟨hT.step o, ?_⟩
  cases o with
  | passage p => exact h.pass hT p
  | select o => exact ⟨h.begun, h.looked, h.connections, h.sending⟩

/-- A send whose turn comes has met no refusal. -/
theorem Marked.refusedBy_turn {log : List Ending} (h : T.Marked log) (hT : T.Sound)
    (ha : T.allows p = true) (hp : T.cluster.takesTurn p = true) :
    p.token < (T.pass p).begun ∧ (T.pass p).refusedBy p.token = [] := by
  rw [pass_of_allows ha]
  refine ⟨Nat.lt_of_lt_of_le (Nat.lt_succ_self _) (Nat.le_max_right _ _), ?_⟩
  cases p with
  | start t =>
    obtain rfl : t = T.begun := of_decide_eq_true ha
    exact (refusedBy_of_ne (T := T) (x := none) rfl nofun).trans hT.refusedBy_begun
  | turn t =>
    have hs := of_decide_eq_true (Bool.and_eq_true_iff.1 hp).2
    exact (refusedBy_of_ne (T := T) (x := none) rfl nofun).trans (h.unrefused t hs)
  | _ => cases hp

end

/-- How a send, whose turn at the link comes in `T`, has stayed away from `m` when `T'` has come. -/
structure Avoids (T T' : Traffic) (p : Passage) (m : Address) : Prop where
  /-- A link to the member is gone before anybody is asked. -/
  relinked : ∀ l, T.cluster.link = some l → l.address = m →
    Cluster.Relinks p.token (T.cluster.handle T.selector p)
  /-- If the member carries the send, that is over a connection made since the turn. -/
  renewed : ∀ k, T'.cluster.stage? p.token = some (.sending m k) → T.cluster.connections ≤ k
  /-- If the send waits on the member, all other candidates have refused it. -/
  last : T'.waitsOn p.token = some m →
    ∀ b ∈ T.selector.candidates, b ≠ m → b ∈ T'.refusedBy p.token

/-- **A failed member is avoided until it proves itself.**  Take any connection at any time, and a
    member under suspicion: a send that it carried has ended with a connection error or has not been
    answered in time, or has been given up by its caller; and since then no send that the member
    carried has completed, and none that another member carried has ended badly.  A send whose turn
    at the link comes then is not carried by a link to the member that is there already, and it
    waits on the member only after all other candidates have refused it, whatever happens later. -/
theorem suspect_avoided (strategy : SelectionStrategy) (servers : List Address)
    (os : List Occasion) (m : Address) (p : Passage) (os' : List Occasion) :
    let T := (initial strategy servers).run os
    Suspect ((initial strategy servers).endLog os) m → T.allows p = true →
      T.cluster.takesTurn p = true → T.Avoids ((T.pass p).run os') p m := by
  intro T hm ha hp
  have hT : T.Sound := run_sound (initial_sound strategy servers) os
  have hmarked : T.Marked _ := run_marked strategy servers os
  have hfailed : T.cluster.failed = some m := (hmarked.failed m).2 hm
  obtain ⟨hbegun, hrefused⟩ := hmarked.refusedBy_turn hT ha hp
  obtain ⟨c, hlink, hcfailed, hhandle⟩ := Cluster.handle_of_takesTurn hp T.selector
  have hcluster : (T.pass p).cluster = (c.connect p.token T.selector).cluster := by
    rw [pass_of_allows ha, ← hhandle]
  -- the link that may be used again does not lead to the suspect
  have hother : ∀ l, c.link.filter (c.reusable T.selector) = some l → l.address ≠ m := by
    intro l hl he
    have hr := (Option.filter_eq_some_iff.1 hl).2
    simp [Cluster.reusable, hcfailed, hfailed, he] at hr
  refine ⟨fun l hl he => ?_, ?_, fun hw b hb hne => ?_⟩
  · rw [hhandle]
    refine Cluster.connect_relinks (hlink.trans hl) (Bool.eq_false_iff.2 fun hr => ?_)
    exact hother l (Option.filter_eq_some_iff.2 ⟨hlink.trans hl, hr⟩) he
  · have hrenews : (T.pass p).Renews p.token m T.cluster.connections := by
      have hst := Cluster.connect_stage? (c := c) (t := p.token) (s := T.selector)
      rw [← hcluster] at hst
      refine ⟨hbegun, fun hq => ?_, ?_, fun k hk => ?_⟩
      · replace hq := hst.symm.trans hq
        split at hq <;> cases hq
      · rw [pass_of_allows ha]
        exact connections_le hT ha
      · replace hk := hst.symm.trans hk
        split at hk
        · next l hl => cases hk; exact absurd rfl (hother _ hl)
        · cases hk
        · cases hk
    exact (hrenews.run (hT.pass p) os').sending
  · have hasks : (T.pass p).Asks p.token (demote c.failed T.selector.candidates) (· ≠ m) :=
      Asks.of_connect hbegun hcluster hrefused hother
    obtain hexempt | ⟨rest, hrest⟩ := (hasks.run os').reaches hw
    · exact absurd rfl hexempt
    · rw [hcfailed, hfailed] at hrest
      exact mem_before_of_demote hT.selector.candidates_nodup hrest b hb hne

/-- Two sends share a link, and one of them is given up.  The next send does not use the link; the
    other member refuses it, and only then the first one carries it, over a new connection. -/
theorem suspect_avoided_shared :
    let start := initial .any [⟨"a", 5000⟩, ⟨"b", 5000⟩]
    let os := [.passage (.start 0), .passage (.dialed 0 true), .passage (.start 1),
      .passage (.abandon 0)]
    let os' := [.passage (.dialed 2 false), .passage (.dialed 2 true)]
    let T := start.run os
    let T' := (T.pass (.start 2)).run os'
    Suspect (start.endLog os) ⟨"a", 5000⟩ ∧ T.allows (.start 2) = true ∧
      T.cluster.takesTurn (.start 2) = true ∧ T.cluster.currentAddress = some ⟨"a", 5000⟩ ∧
      T'.cluster.stage? 2 = some (.sending ⟨"a", 5000⟩ 1) ∧
      T.Avoids T' (.start 2) ⟨"a", 5000⟩ := by
  intro start os os' T T'
  have hm : Suspect (start.endLog os) ⟨"a", 5000⟩ :=
    ⟨[], .abandoned 0 ⟨"a", 5000⟩, [], by decide, ⟨0, .inr rfl⟩, nofun⟩
  exact ⟨hm, by decide, by decide, by decide, by decide,
    suspect_avoided .any _ os _ (.start 2) os' hm (by decide) (by decide)⟩

end Traffic

end ClusterSession
