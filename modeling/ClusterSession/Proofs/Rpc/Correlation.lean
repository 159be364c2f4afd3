/-
  ClusterSession: every response reaches the send that it answers, and no other.

  * `Justified`: what stands before an entry of a log, and is the reason for it.
  * `Line.Sound`: the sends and the table are as the log says.
  * `step_sound`: every incident keeps this, as long as numbers do not come round.
  * `responses_correlated`: what follows for every run.
-/
import ClusterSession.Proofs.Rpc.Lines
import Mathlib.Data.List.Induction

namespace ClusterSession

open Json

/-- What a send is told stands in the log: a frame with its number, the first since it started, or
    the end of the connection. -/
def Told (log : List Entry) (t : Token) : Except ConnectionError Response → Prop
  | .ok r => ∃ before id after, log = before ++ .read { id, body := r } :: after ∧ Awaits before t id
  | .error e => e = .connectionClosed ∧
      ∃ before id after, log = before ++ .closed :: after ∧ Awaits before t id

/-- The reason for an entry of a log. -/
def Justified (before : List Entry) : Entry → Prop
  | .began t frame => t = before.countP Entry.starts ∧ frame.id = UInt32.ofNat t
  | .refused e => e = .connectionClosed
  | .handed t frame => .began t frame ∈ before
  | .wrote t _ => ∃ frame, .handed t frame ∈ before
  | .read frame => ∀ t t', Awaits before t frame.id → Awaits before t' frame.id → t = t'
  | .ended t result => (∃ id, Pends before t id) ∧
      (Told before t result ∨ ∃ e, result = .error e ∧ .wrote t (.error e) ∈ before)
  | .abandoned t => ∃ id, Pends before t id
  | _ => True

/-- There is a reason for every entry of a log. -/
def Reasoned (log : List Entry) : Prop :=
  ∀ before e after, log = before ++ e :: after → Justified before e

theorem reasoned_concat {log : List Entry} {e : Entry} (h : Reasoned log) (he : Justified log e) :
    Reasoned (log ++ [e]) := by
  intro before x after hx
  rcases concat_eq_iff.1 hx with ⟨rfl, rfl, -⟩ | ⟨rest, hlog, -⟩
  · exact he
  · exact h before x rest hlog

theorem Told.concat {log : List Entry} {t : Token} {result : Except ConnectionError Response}
    (h : Told log t result) (e : Entry) : Told (log ++ [e]) t result := by
  cases result with
  | ok r =>
    obtain ⟨before, id, after, rfl, ha⟩ := h
    exact ⟨before, id, after ++ [e], by simp, ha⟩
  | error x =>
    obtain ⟨rfl, before, id, after, rfl, ha⟩ := h
    exact ⟨rfl, before, id, after ++ [e], by simp, ha⟩

namespace Line

/-- The sends, the table and the frames are as the log says. -/
structure Sound (l : Line) : Prop where
  kept : l.rpc.Kept l.begun
  count : l.begun = l.log.countP Entry.starts
  pends : ∀ t id, Pends l.log t id ↔ ∃ p ∈ l.rpc.sends, p.token = t ∧ p.id = id
  awaits : ∀ t id, Awaits l.log t id ↔ ∃ p ∈ l.rpc.sends, p.token = t ∧ p.id = id ∧ p.told = none
  told : ∀ p ∈ l.rpc.sends, ∀ result, p.told = some result → Told l.log p.token result
  frames : ∀ x ∈ l.frames, .began x.1 x.2 ∈ l.log
  handed : ∀ p ∈ l.rpc.sends,
    (∃ frame, (p.token, frame) ∈ l.frames) ∨ ∃ frame, .handed p.token frame ∈ l.log
  reasoned : Reasoned l.log

/-- Fewer than `2 ^ 32` sends have started since any that is not over. -/
def Spaced (l : Line) : Prop := ∀ t id, Pends l.log t id → l.begun - (t + 1) < UInt32.size

section
variable {l : Line}

theorem Sound.apart (h : l.Sound) (hs : l.Spaced) : l.rpc.Apart l.begun := by
  intro p hp
  have := hs p.token p.id ((h.pends _ _).2 ⟨p, hp, rfl, rfl⟩)
  omega

theorem Sound.countP_concat (h : l.Sound) {e : Entry} (hs : e.starts = false) :
    l.begun = (l.log ++ [e]).countP Entry.starts := by
  rw [List.countP_append, List.countP_singleton, hs]
  exact h.count

/-- An entry that has to do with no send. -/
theorem Sound.note (h : l.Sound) {e : Entry} {frames : List (Token × RequestFrame)}
    (hs : e.starts = false) (he : ∀ t, e.ends t = false) (hset : ∀ t id, e.settles t id = false)
    (hj : Justified l.log e) (hf : ∀ x ∈ frames, x ∈ l.frames)
    (hh : ∀ x ∈ l.frames, x ∈ frames ∨ ∃ frame, e = .handed x.1 frame) :
    Sound { l with frames, log := l.log ++ [e] } where
  kept := h.kept
  count := h.countP_concat hs
  pends t id := (since_concat_of hs (he t)).trans (h.pends t id)
  awaits t id := (since_concat_of hs (hset t id)).trans (h.awaits t id)
  told p hp result hr := (h.told p hp result hr).concat e
  frames x hx := List.mem_append_left _ (h.frames x (hf x hx))
  handed p hp := by
    rcases h.handed p hp with ⟨frame, hm⟩ | ⟨frame, hm⟩
    · rcases hh _ hm with hm | ⟨frame', rfl⟩
      · exact .inl ⟨frame, hm⟩
      · exact .inr ⟨frame', List.mem_append_right _ List.mem_cons_self⟩
    · exact .inr ⟨frame, List.mem_append_left _ hm⟩
  reasoned := reasoned_concat h.reasoned hj

/-- Of the other sends, all are left when one is over. -/
theorem Sound.exists_finish (h : l.Sound) (ha : l.rpc.Apart l.begun) {p : Pending}
    (hp : p ∈ l.rpc.sends) (q : Pending → Prop) (t : Token) :
    (∃ r ∈ (l.rpc.finish p).sends, r.token = t ∧ q r) ↔
      (∃ r ∈ l.rpc.sends, r.token = t ∧ q r) ∧ decide (p.token = t) = false := by
  simp only [h.kept.mem_finish ha hp, decide_eq_false_iff_not]
  constructor
  · rintro ⟨r, ⟨hr, hne⟩, rfl, hq⟩
    exact ⟨⟨r, hr, rfl, hq⟩, Ne.symm hne⟩
  · rintro ⟨⟨r, hr, rfl, hq⟩, hne⟩
    exact ⟨r, ⟨hr, Ne.symm hne⟩, rfl, hq⟩

/-- A send is over. -/
theorem Sound.finish (h : l.Sound) (ha : l.rpc.Apart l.begun) {p : Pending}
    (hp : p ∈ l.rpc.sends) {e : Entry} {frames : List (Token × RequestFrame)}
    (hs : e.starts = false) (he : ∀ t, e.ends t = decide (p.token = t))
    (hset : ∀ t id, e.settles t id = decide (p.token = t)) (hj : Justified l.log e)
    (hf : ∀ x ∈ frames, x ∈ l.frames) (hh : ∀ x ∈ l.frames, x.1 ≠ p.token → x ∈ frames) :
    Sound { l with rpc := l.rpc.finish p, frames, log := l.log ++ [e] } := by
  have hsince : ∀ {q : Entry → Bool} {t id}, q e = decide (p.token = t) →
      (Since q (l.log ++ [e]) t id ↔ Since q l.log t id ∧ decide (p.token = t) = false) := by
    intro q t id hq
    rw [since_concat_iff hs, hq]
  exact
    { kept := Rpc.finish_kept h.kept hp
      count := h.countP_concat hs
      pends := fun t id => by
        refine (hsince (he t)).trans ?_
        rw [h.exists_finish ha hp, ← h.pends]
        rfl
      awaits := fun t id => by
        refine (hsince (hset t id)).trans ?_
        rw [h.exists_finish ha hp, ← h.awaits]
        rfl
      told := fun q hq result hr =>
        (h.told q ((h.kept.mem_finish ha hp).1 hq).1 result hr).concat e
      frames := fun x hx => List.mem_append_left _ (h.frames x (hf x hx))
      handed := fun q hq => by
        obtain ⟨hq, hne⟩ := (h.kept.mem_finish ha hp).1 hq
        rcases h.handed q hq with ⟨frame, hm⟩ | ⟨frame, hm⟩
        · exact .inl ⟨frame, hh _ hm hne⟩
        · exact .inr ⟨frame, List.mem_append_left _ hm⟩
      reasoned := reasoned_concat h.reasoned hj }

/-- A send that starts on a connection that is not closed gets the next number. -/
theorem Sound.apart_of_send (h : l.Sound) (ho : l.rpc.closed = false) {r : Request}
    (hs : (l.send r).Spaced) : l.rpc.Apart (l.begun + 1) := by
  have hlog : (l.send r).log = l.log ++ [.began l.begun { id := l.rpc.nextId, body := r }] ∧
      (l.send r).begun = l.begun + 1 := by
    simp only [Line.send, Rpc.start, ho, Bool.false_eq_true, if_false, and_self]
  intro p hp
  have hpend : Pends (l.send r).log p.token p.id := by
    rw [hlog.1]
    exact since_concat.2 (.inr ⟨(h.pends _ _).2 ⟨p, hp, rfl, rfl⟩, rfl⟩)
  have := hs p.token p.id hpend
  rw [hlog.2] at this
  omega

theorem Sound.send (h : l.Sound) (r : Request) (hs : (l.send r).Spaced) : (l.send r).Sound := by
  cases ho : l.rpc.closed with
  | true =>
    have he : l.send r = { l with log := l.log ++ [.refused .connectionClosed] } := by
      simp only [Line.send, Rpc.start, ho, if_true]
    rw [he]
    exact h.note rfl (fun _ => rfl) (fun _ _ => rfl) rfl (fun _ hx => hx) fun _ hx => .inl hx
  | false =>
    have ha := h.apart_of_send ho hs
    have hk := Rpc.start_kept h.kept ho r
    unfold Line.send
    rw [Rpc.start_eq h.kept ha ho] at hk ⊢
    have hmem : ∀ q : Pending → Prop, q ⟨l.begun, UInt32.ofNat l.begun, false, none⟩ → ∀ t id,
        ((∃ p ∈ l.rpc.sends ++ [⟨l.begun, UInt32.ofNat l.begun, false, none⟩],
            p.token = t ∧ p.id = id ∧ q p) ↔
          l.begun = t ∧ UInt32.ofNat l.begun = id ∨
            ∃ p ∈ l.rpc.sends, p.token = t ∧ p.id = id ∧ q p) := by
      intro q hq t id
      simp only [List.mem_append, List.mem_singleton, or_and_right, exists_or, exists_eq_left, hq,
        and_true]
      exact or_comm
    exact
      { kept := hk
        count := by
          rw [List.countP_append, List.countP_singleton, ← h.count]
          rfl
        pends := fun t id => by
          have hm := hmem (fun _ => True) trivial t id
          simp only [and_true] at hm
          refine (since_concat_began rfl).trans ?_
          rw [hm, ← h.pends]
          rfl
        awaits := fun t id => by
          refine (since_concat_began rfl).trans ?_
          rw [hmem (fun p => p.told = none) rfl, ← h.awaits]
          rfl
        told := fun p hp result hr => by
          rcases List.mem_append.1 hp with hp | hp
          · exact (h.told p hp result hr).concat _
          · rw [List.mem_singleton.1 hp] at hr
            cases hr
        frames := fun x hx => by
          rcases List.mem_append.1 hx with hx | hx
          · exact List.mem_append_left _ (h.frames x hx)
          · rw [List.mem_singleton.1 hx]
            exact List.mem_append_right _ List.mem_cons_self
        handed := fun p hp => by
          rcases List.mem_append.1 hp with hp | hp
          · rcases h.handed p hp with ⟨frame, hm⟩ | ⟨frame, hm⟩
            · exact .inl ⟨frame, List.mem_append_left _ hm⟩
            · exact .inr ⟨frame, List.mem_append_left _ hm⟩
          · rw [List.mem_singleton.1 hp]
            exact .inl ⟨_, List.mem_append_right _ List.mem_cons_self⟩
        reasoned := reasoned_concat h.reasoned ⟨h.count, rfl⟩ }

theorem Sound.awaits_iff (h : l.Sound) {p : Pending} (hp : p ∈ l.rpc.sends) :
    Awaits l.log p.token p.id ↔ p.told = none := by
  rw [h.awaits]
  constructor
  · rintro ⟨q, hq, ht, -, hn⟩
    rwa [← List.inj_on_of_nodup_map h.kept.tokens hq hp ht]
  · exact fun hn => ⟨p, hp, rfl, rfl, hn⟩

/-- What is known of the sends changes, and the log with it, but no send starts and none is over. -/
theorem Sound.map (h : l.Sound) {rpc : Rpc} {log : List Entry} {f : Pending → Pending}
    (hf : ∀ p, (f p).token = p.token ∧ (f p).id = p.id) (hs : rpc.sends = l.rpc.sends.map f)
    (hk : rpc.Kept l.begun) (hc : l.begun = log.countP Entry.starts)
    (hp : ∀ t id, Pends log t id ↔ Pends l.log t id)
    (ha : ∀ p ∈ l.rpc.sends, Awaits log p.token p.id ↔ (f p).told = none)
    (ht : ∀ p ∈ l.rpc.sends, ∀ result, (f p).told = some result → Told log p.token result)
    (hl : ∀ e ∈ l.log, e ∈ log) (hr : Reasoned log) : Sound { l with rpc, log } := by
  have hpends : ∀ t id, Pends log t id ↔ ∃ p ∈ rpc.sends, p.token = t ∧ p.id = id := by
    intro t id
    rw [hp, h.pends, hs]
    constructor
    · rintro ⟨p, hp, rfl, rfl⟩
      exact ⟨f p, List.mem_map_of_mem hp, hf p⟩
    · rintro ⟨q, hq, rfl, rfl⟩
      obtain ⟨p, hp, rfl⟩ := List.mem_map.1 hq
      exact ⟨p, hp, (hf p).1.symm, (hf p).2.symm⟩
  refine ⟨hk, hc, hpends, fun t id => ?_, ?_, fun x hx => hl _ (h.frames x hx), ?_, hr⟩
  · constructor
    · intro haw
      obtain ⟨q, hq, rfl, rfl⟩ := (hpends t id).1 haw.pends
      refine ⟨q, hq, rfl, rfl, ?_⟩
      rw [hs] at hq
      obtain ⟨p, hp, rfl⟩ := List.mem_map.1 hq
      rw [(hf p).1, (hf p).2] at haw
      exact (ha p hp).1 haw
    · rintro ⟨q, hq, rfl, rfl, hn⟩
      rw [hs] at hq
      obtain ⟨p, hp, rfl⟩ := List.mem_map.1 hq
      rw [(hf p).1, (hf p).2]
      exact (ha p hp).2 hn
  · intro q hq result hresult
    rw [hs] at hq
    obtain ⟨p, hp, rfl⟩ := List.mem_map.1 hq
    rw [(hf p).1]
    exact ht p hp result hresult
  · intro q hq
    rw [hs] at hq
    obtain ⟨p, hp, rfl⟩ := List.mem_map.1 hq
    rw [(hf p).1]
    exact (h.handed p hp).imp_right fun ⟨frame, hm⟩ => ⟨frame, hl _ hm⟩

/-- The frame of a send has been written. -/
theorem Sound.noteWritten (h : l.Sound) (t : Token) :
    Sound { l with rpc := l.rpc.noteWritten t } := by
  have htold : ∀ p : Pending, (if p.token = t then { p with written := true } else p).told = p.told :=
    fun p => by split <;> rfl
  refine h.map (fun p => ?_) (Rpc.noteWritten_sends t) (Rpc.noteWritten_kept h.kept t) h.count
    (fun _ _ => Iff.rfl) (fun p hp => ?_) (fun p hp result hr => ?_) (fun _ he => he) h.reasoned
  · split <;> exact ⟨rfl, rfl⟩
  · rw [htold]
    exact h.awaits_iff hp
  · rw [htold] at hr
    exact h.told p hp result hr

/-- What a send knows after it has been told something stands in the log. -/
theorem Sound.told_of_hear (h : l.Sound) {p : Pending} (hp : p ∈ l.rpc.sends) {e : Entry}
    {result result' : Except ConnectionError Response}
    (hnew : p.told = none → Told (l.log ++ [e]) p.token result)
    (hr : (p.hear result).told = some result') : Told (l.log ++ [e]) p.token result' := by
  rw [Pending.hear_told] at hr
  cases hn : p.told with
  | none =>
    rw [hn] at hr
    obtain rfl := Option.some.inj hr
    exact hnew hn
  | some known =>
    rw [hn] at hr
    obtain rfl := Option.some.inj hr
    exact (h.told p hp _ hn).concat e

/-- A response frame is dispatched. -/
theorem Sound.read (h : l.Sound) (ha : l.rpc.Apart l.begun) (f : ResponseFrame) :
    Sound { l with rpc := l.rpc.dispatch f, log := l.log ++ [.read f] } := by
  refine h.map (fun p => ?_) (congrArg Rpc.sends (Rpc.dispatch_eq f)) (Rpc.dispatch_kept h.kept f)
    (h.countP_concat rfl) (fun _ _ => since_concat_of rfl rfl) (fun p hp => ?_)
    (fun p hp result hr => ?_) (fun _ he => List.mem_append_left _ he)
    (reasoned_concat h.reasoned ?_)
  · split <;> simp
  · rw [h.kept.told_of_answer f.id (.ok f.body) hp, ← h.awaits_iff hp]
    refine (since_concat_iff rfl).trans (and_congr_right fun _ => ?_)
    simp only [Entry.settles, decide_eq_false_iff_not, ne_eq]
    exact not_congr eq_comm
  · split at hr
    · next hl =>
      refine h.told_of_hear hp (fun hn => ?_) hr
      have hid := (h.kept.lookup_token hp hn).1 hl
      exact ⟨l.log, p.id, [], by rw [hid], (h.awaits_iff hp).2 hn⟩
    · exact (h.told p hp result hr).concat _
  · intro t t' ht ht'
    obtain ⟨p, hp, rfl, hid, -⟩ := (h.awaits _ _).1 ht
    obtain ⟨q, hq, rfl, hid', -⟩ := (h.awaits _ _).1 ht'
    rw [h.kept.eq_of_id ha hp hq (hid.trans hid'.symm)]

theorem Sound.shutdown (h : l.Sound) :
    Sound { l with rpc := l.rpc.shutdown, log := l.log ++ [.closed] } := by
  refine h.map (fun p => ?_) (congrArg Rpc.sends (Rpc.shutdown_eq l.rpc)) (Rpc.shutdown_kept h.kept)
    (h.countP_concat rfl) (fun _ _ => since_concat_of rfl rfl) (fun p hp => ?_)
    (fun p hp result hr => ?_) (fun _ he => List.mem_append_left _ he)
    (reasoned_concat h.reasoned trivial)
  · split <;> simp
  · refine iff_of_false (fun ha => ?_) (h.kept.told_of_shutdown hp)
    exact absurd ((since_concat_iff rfl).1 ha).2 nofun
  · split at hr
    · refine h.told_of_hear hp (fun hn => ?_) hr
      exact ⟨rfl, l.log, p.id, [], rfl, (h.awaits_iff hp).2 hn⟩
    · exact (h.told p hp result hr).concat _

theorem Sound.pending (h : l.Sound) {p : Pending} (hp : p ∈ l.rpc.sends) :
    ∃ id, Pends l.log p.token id :=
  ⟨p.id, (h.pends _ _).2 ⟨p, hp, rfl, rfl⟩⟩

/-! ## Incidents -/

theorem Sound.hand (h : l.Sound) (t : Token) : (l.hand t).Sound := by
  unfold Line.hand
  cases hf : l.frames.lookup t with
  | none => exact h
  | some frame =>
    obtain ⟨before, after, he, -⟩ := List.lookup_eq_some_iff.1 hf
    have hm : (t, frame) ∈ l.frames := by
      rw [he]
      exact List.mem_append_right _ List.mem_cons_self
    refine h.note rfl (fun _ => rfl) (fun _ _ => rfl) (h.frames _ hm)
      (fun x hx => List.mem_of_mem_filter hx) fun x hx => ?_
    by_cases hx' : x.1 = t
    · exact .inr ⟨frame, by rw [hx']⟩
    · exact .inl (List.mem_filter.2 ⟨hx, decide_eq_true hx'⟩)

theorem Sound.resume (h : l.Sound) (ha : l.rpc.Apart l.begun) (t : Token) :
    (l.goOn t (l.rpc.resume t)).Sound := by
  unfold Rpc.resume
  cases hp : l.rpc.send? t with
  | none => exact h
  | some p =>
    obtain ⟨hm, rfl⟩ := Rpc.mem_of_send? hp
    dsimp only
    split
    · next result _ hr =>
      exact h.finish ha hm rfl (fun _ => rfl) (fun _ _ => rfl)
        ⟨h.pending hm, .inl (h.told p hm result hr)⟩ (fun _ hx => hx) fun _ hx _ => hx
    · exact h

theorem Sound.wrote (h : l.Sound) (ha : l.rpc.Apart l.begun) (t : Token)
    (outcome : Except ConnectionError Unit) : (l.wrote t outcome).Sound := by
  unfold Line.wrote
  cases hp : l.rpc.send? t with
  | none => exact h
  | some p =>
    obtain ⟨hm, rfl⟩ := Rpc.mem_of_send? hp
    dsimp only
    split
    · next _ hf =>
      have hh : ∃ frame, .handed p.token frame ∈ l.log := by
        refine (h.handed p hm).resolve_left fun ⟨frame, hx⟩ => ?_
        exact bne_iff_ne.1 (List.lookup_eq_none_iff.1 hf _ hx) rfl
      have hn : Sound { l with log := l.log ++ [.wrote p.token outcome] } :=
        h.note rfl (fun _ => rfl) (fun _ _ => rfl) hh (fun _ hx => hx) fun _ hx => .inl hx
      split
      · exact h
      · cases outcome with
        | ok _ => exact hn.noteWritten p.token
        | error e =>
          simp only [Rpc.written, hp]
          refine hn.finish ha hm rfl (fun _ => rfl) (fun _ _ => rfl)
            ⟨hn.pending hm, .inr ⟨e, rfl, ?_⟩⟩ (fun _ hx => hx) fun _ hx _ => hx
          exact List.mem_append_right _ List.mem_cons_self
    · exact h

theorem Sound.abandon (h : l.Sound) (ha : l.rpc.Apart l.begun) (t : Token) :
    (l.abandon t).Sound := by
  unfold Line.abandon Rpc.abandon
  cases hp : l.rpc.send? t with
  | none => exact h
  | some p =>
    obtain ⟨hm, rfl⟩ := Rpc.mem_of_send? hp
    exact h.finish ha hm rfl (fun _ => rfl) (fun _ _ => rfl) (h.pending hm)
      (fun _ hx => List.mem_of_mem_filter hx) fun _ hx hne =>
        List.mem_filter.2 ⟨hx, decide_eq_true hne⟩

theorem Sound.dispatch (h : l.Sound) (ha : l.rpc.Apart l.begun) : l.dispatch.Sound := by
  unfold Line.dispatch
  split
  · next v rest _ _ =>
    have hrest : Sound { l with inbound := rest } :=
      ⟨h.kept, h.count, h.pends, h.awaits, h.told, h.frames, h.handed, h.reasoned⟩
    unfold Rpc.receive seen
    cases ResponseFrame.ofValue v with
    | ok f => exact hrest.read ha f
    | error _ =>
      exact hrest.note rfl (fun _ => rfl) (fun _ _ => rfl) trivial (fun _ hx => hx) fun _ hx => .inl hx
  · exact h

theorem Sound.close (h : l.Sound) : l.close.Sound := by
  unfold Line.close
  split
  · exact h.shutdown
  · exact h

theorem step_sound (h : l.Sound) (hl : l.Spaced) {i : Incident} (hi : (l.step i).Spaced) :
    (l.step i).Sound := by
  have ha := h.apart hl
  cases i with
  | send r => exact h.send r hi
  | hand t => exact h.hand t
  | wrote t outcome => exact h.wrote ha t outcome
  | resume t => exact h.resume ha t
  | abandon t => exact h.abandon ha t
  | arrive v =>
    simp only [Line.step]
    split
    · exact h
    · exact ⟨h.kept, h.count, h.pends, h.awaits, h.told, h.frames, h.handed, h.reasoned⟩
  | hangUp => exact ⟨h.kept, h.count, h.pends, h.awaits, h.told, h.frames, h.handed, h.reasoned⟩
  | run => exact ⟨h.kept, h.count, h.pends, h.awaits, h.told, h.frames, h.handed, h.reasoned⟩
  | dispatch => exact h.dispatch ha
  | close => exact h.close

end

theorem initial_sound : initial.Sound where
  kept := Rpc.initial_kept
  count := rfl
  pends t id := by
    refine iff_of_false not_since_nil ?_
    rintro ⟨p, hp, -⟩
    exact absurd hp List.not_mem_nil
  awaits t id := by
    refine iff_of_false not_since_nil ?_
    rintro ⟨p, hp, -⟩
    exact absurd hp List.not_mem_nil
  told p hp := absurd hp List.not_mem_nil
  frames x hx := absurd hx List.not_mem_nil
  handed p hp := absurd hp List.not_mem_nil
  reasoned before e after he :=
    absurd he.symm (List.append_ne_nil_of_right_ne_nil _ (List.cons_ne_nil _ _))

/-- As long as numbers do not come round, the table is as the log says. -/
theorem run_sound {is : List Incident} (h : ∀ past, past <+: is → (run past).Spaced) :
    (run is).Sound := by
  induction is using List.reverseRecOn with
  | nil => exact initial_sound
  | append_singleton is i ih =>
    have hpast := fun past (hp : past <+: is) => h past (hp.trans (List.prefix_append _ _))
    have hlast := h _ (List.prefix_refl _)
    rw [run_concat] at hlast ⊢
    exact step_sound (ih hpast) (hpast is (List.prefix_refl _)) hlast

/-! ## Correlation -/

/-- Responses go with the sends that they answer. -/
structure Correlated (l : Line) : Prop where
  /-- A send that ends well ends with the first frame with its number that has been dispatched
      while it was not over. -/
  answered : ∀ before t r after, l.log = before ++ .ended t (.ok r) :: after →
    ∃ earlier id later, before = earlier ++ .read { id, body := r } :: later ∧ Awaits earlier t id
  /-- No frame answers two sends. -/
  single : ∀ before frame after, l.log = before ++ .read frame :: after →
    ∀ t t', Awaits before t frame.id → Awaits before t' frame.id → t = t'
  /-- A send ends at most once, and only after it has started. -/
  ends : ∀ before e after t, l.log = before ++ e :: after → e.ends t = true →
    ∃ id, Pends before t id
  /-- Numbers are given out as sends start, one after another. -/
  numbered : ∀ before t frame after, l.log = before ++ .began t frame :: after →
    t = before.countP Entry.starts ∧ frame.id = UInt32.ofNat t
  /-- The frames that are written are those of the sends that have started. -/
  handed : ∀ before t frame after, l.log = before ++ .handed t frame :: after →
    .began t frame ∈ before
  /-- Two sends that are not over have two numbers. -/
  distinct : ∀ t t' id, Pends l.log t id → Pends l.log t' id → t = t'
  /-- No number is waited for twice. -/
  keys : (l.rpc.callbacks.map Prod.fst).Nodup
  /-- The table has the numbers of those who wait, and no other. -/
  table : ∀ id t, (id, t) ∈ l.rpc.callbacks ↔ Awaits l.log t id
  /-- The table is empty when all sends are over. -/
  idle : (∀ t id, ¬ Pends l.log t id) → l.rpc.callbacks = []
  /-- A send is not told that its wait was given up, unless the transport said so of its frame. -/
  dropped : ∀ before t after, l.log = before ++ .ended t (.error .channelClosed) :: after →
    ∃ earlier later frame, before = earlier ++ .wrote t (.error .channelClosed) :: later ∧
      .handed t frame ∈ earlier
  /-- A send that gets no number is told that the connection is closed. -/
  refused : ∀ e, .refused e ∈ l.log → e = .connectionClosed

theorem Sound.correlated {l : Line} (h : l.Sound) (ha : l.rpc.Apart l.begun) :
    l.Correlated := by
  have htable : ∀ id t, (id, t) ∈ l.rpc.callbacks ↔ Awaits l.log t id := fun id t =>
    (h.kept.waiting id t).trans (h.awaits t id).symm
  refine
    { answered := fun before t r after hlog => ?_
      single := fun before frame after hlog => h.reasoned before _ after hlog
      ends := fun before e after t hlog he => ?_
      numbered := fun before t frame after hlog => h.reasoned before _ after hlog
      handed := fun before t frame after hlog => h.reasoned before _ after hlog
      distinct := fun t t' id ht ht' => ?_
      keys := h.kept.keys
      table := htable
      idle := fun hover => ?_
      dropped := fun before t after hlog => ?_
      refused := fun e he => ?_ }
  · obtain ⟨-, htold | ⟨e, he, -⟩⟩ := h.reasoned before _ after hlog
    · exact htold
    · cases he
  · have hr := h.reasoned before e after hlog
    cases e with
    | ended t' result =>
      obtain rfl : t' = t := of_decide_eq_true he
      exact hr.1
    | abandoned t' =>
      obtain rfl : t' = t := of_decide_eq_true he
      exact hr
    | _ => cases he
  · obtain ⟨p, hp, rfl, hid⟩ := (h.pends t id).1 ht
    obtain ⟨q, hq, rfl, hid'⟩ := (h.pends t' id).1 ht'
    rw [h.kept.eq_of_id ha hp hq (hid.trans hid'.symm)]
  · refine List.eq_nil_iff_forall_not_mem.2 fun x hx => ?_
    exact hover x.2 x.1 ((htable x.1 x.2).1 hx).pends
  · obtain ⟨-, ⟨hclosed, -⟩ | ⟨e, he, hw⟩⟩ := h.reasoned before _ after hlog
    · cases hclosed
    · obtain rfl := Except.error.inj he
      obtain ⟨earlier, later, rfl⟩ := List.append_of_mem hw
      rw [List.append_assoc, List.cons_append] at hlog
      obtain ⟨frame, hframe⟩ := h.reasoned earlier _ _ hlog
      exact ⟨earlier, later, frame, rfl, hframe⟩
  · obtain ⟨before, after, hlog⟩ := List.append_of_mem he
    exact h.reasoned before _ after hlog

/-- **Correlation.**  However sends, transport and peer come between each other, responses go with
    the sends that they answer, as long as numbers do not come round. -/
theorem responses_correlated (is : List Incident)
    (h : ∀ past, past <+: is → (run past).Spaced) : (run is).Correlated :=
  (run_sound h).correlated ((run_sound h).apart (h is (List.prefix_refl is)))

theorem step_begun (l : Line) (i : Incident) : (l.step i).begun ≤ l.begun + 1 := by
  have hle : l.begun ≤ l.begun + 1 := Nat.le_succ _
  cases i with
  | send r =>
    simp only [Line.step, Line.send]
    split
    · exact Nat.le_refl _
    · exact hle
  | hand t =>
    simp only [Line.step, Line.hand]
    split <;> exact hle
  | wrote t outcome =>
    simp only [Line.step, Line.wrote, Line.goOn]
    repeat' split
    all_goals exact hle
  | resume t =>
    simp only [Line.step, Line.goOn]
    split <;> exact hle
  | abandon t =>
    simp only [Line.step, Line.abandon]
    split <;> exact hle
  | arrive v =>
    simp only [Line.step]
    split <;> exact hle
  | hangUp => exact hle
  | run => exact hle
  | dispatch =>
    simp only [Line.step, Line.dispatch]
    split <;> exact hle
  | close =>
    simp only [Line.step, Line.close]
    split <;> exact hle

theorem run_begun (is : List Incident) : (run is).begun ≤ is.length := by
  induction is using List.reverseRecOn with
  | nil => exact Nat.le_refl 0
  | append_singleton is i ih =>
    rw [run_concat, List.length_append]
    exact Nat.le_trans (step_begun _ _) (Nat.succ_le_succ ih)

/-- Numbers do not come round in a short time. -/
theorem spaced_of_short {is : List Incident} (h : is.length ≤ UInt32.size) : (run is).Spaced := by
  intro t id _
  have := run_begun is
  simp only [UInt32.size] at h ⊢
  omega

/-- Three sends: the second is answered first, the third is given up. -/
def exchange : List Incident :=
  let response (id : UInt32) : Value :=
    ResponseFrame.toValue { id, body := .unregister .accept }
  [.send (.unregister { session := 1 }), .send (.unregister { session := 2 }),
    .send (.unregister { session := 3 }), .run, .hand 0, .hand 1, .wrote 0 (.ok ()),
    .wrote 1 (.ok ()), .abandon 2, .arrive (response 1), .dispatch, .resume 1,
    .arrive (response 0), .arrive (response 0), .dispatch, .dispatch, .resume 0, .hangUp, .close]

theorem exchange_correlated :
    (∀ past, past <+: exchange → (run past).Spaced) ∧ (run exchange).Correlated ∧
      (run exchange).log[9]? = some (.ended 1 (.ok (.unregister .accept))) ∧
      (run exchange).log[12]? = some (.ended 0 (.ok (.unregister .accept))) := by
  have h : ∀ past, past <+: exchange → (run past).Spaced := fun past hp =>
    spaced_of_short (Nat.le_trans hp.length_le (by decide))
  exact ⟨h, responses_correlated exchange h, rfl, rfl⟩

end Line

end ClusterSession
