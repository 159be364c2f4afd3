/-
  ClusterSession: the table of the numbers that are waited for.

  * `Rpc.Kept`: a send that has not been told its result waits under its number, and
    nobody else waits; `Rpc.Apart`: no number has come round to a send that is not
    over.
  * `start_kept`, `noteWritten_kept`, `finish_kept`, `dispatch_kept` and
    `shutdown_kept`: whatever happens keeps this.
-/
import ClusterSession.Rpc
import Mathlib.Data.List.Nodup

namespace ClusterSession

/-- Numbers are the same only when they are a round apart. -/
theorem eq_of_ofNat_eq {m n : Nat} (h : UInt32.ofNat m = UInt32.ofNat n) (hle : n ≤ m)
    (hlt : m < n + UInt32.size) : m = n := by
  have hm := congrArg UInt32.toNat h
  simp only [UInt32.toNat_ofNat', UInt32.size] at hm hlt
  omega

/-- The number after the `n`-th. -/
theorem ofNat_add_one (n : Nat) : UInt32.ofNat n + 1 = UInt32.ofNat (n + 1) :=
  (UInt32.ofNat_add n 1).symm

/-- What a send knows when it is told its result. -/
def Pending.hear (result : Except ConnectionError Response) (p : Pending) : Pending :=
  if p.told.isSome then p else { p with told := some result }

namespace Pending
variable (result : Except ConnectionError Response) (p : Pending)

@[simp] theorem hear_token : (p.hear result).token = p.token := by unfold hear; split <;> rfl

@[simp] theorem hear_id : (p.hear result).id = p.id := by unfold hear; split <;> rfl

@[simp] theorem hear_written : (p.hear result).written = p.written := by
  unfold hear; split <;> rfl

/-- Only what is heard first counts. -/
theorem hear_hear (result' : Except ConnectionError Response) :
    (p.hear result).hear result' = p.hear result := by
  unfold hear
  cases h : p.told <;> simp [h]

/-- Whoever hears a result knows one. -/
theorem hear_told : (p.hear result).told = some (p.told.getD result) := by
  unfold hear
  cases h : p.told with
  | none => rfl
  | some r => simp [h]

end Pending

namespace Rpc

/-- The sends and the table go together. -/
structure Kept (c : Rpc) (begun : Nat) : Prop where
  tokens : (c.sends.map Pending.token).Nodup
  numbered : ∀ p ∈ c.sends, p.token < begun ∧ p.id = UInt32.ofNat p.token
  nextId : c.nextId = UInt32.ofNat begun
  keys : (c.callbacks.map Prod.fst).Nodup
  waiting : ∀ id t, (id, t) ∈ c.callbacks ↔
    ∃ p ∈ c.sends, p.token = t ∧ p.id = id ∧ p.told = none

/-- No number has come round to a send that is not over. -/
def Apart (c : Rpc) (begun : Nat) : Prop := ∀ p ∈ c.sends, begun ≤ p.token + UInt32.size

section
variable {c : Rpc} {begun : Nat}

/-- Two sends that are not over have two numbers. -/
theorem Kept.eq_of_id (h : c.Kept begun) (ha : c.Apart begun) {p q : Pending}
    (hp : p ∈ c.sends) (hq : q ∈ c.sends) (hid : p.id = q.id) : p = q := by
  obtain ⟨hpb, hpid⟩ := h.numbered p hp
  obtain ⟨hqb, hqid⟩ := h.numbered q hq
  rw [hpid, hqid] at hid
  have htoken : p.token = q.token := by
    rcases Nat.le_total q.token p.token with hle | hle
    · exact eq_of_ofNat_eq hid hle (Nat.lt_of_lt_of_le hpb (ha q hq))
    · exact (eq_of_ofNat_eq hid.symm hle (Nat.lt_of_lt_of_le hqb (ha p hp))).symm
  exact List.inj_on_of_nodup_map h.tokens hp hq htoken

theorem Kept.lookup_eq_some (h : c.Kept begun) {id : UInt32} {t : Token} :
    c.callbacks.lookup id = some t ↔ (id, t) ∈ c.callbacks := by
  rw [List.lookup_eq_some_iff]
  constructor
  · rintro ⟨before, after, he, -⟩
    rw [he]
    exact List.mem_append_right _ List.mem_cons_self
  · intro hm
    obtain ⟨before, after, he⟩ := List.append_of_mem hm
    refine ⟨before, after, he, fun x hx => ?_⟩
    have hk := h.keys
    rw [he, List.map_append, List.map_cons, List.nodup_append] at hk
    simpa using (hk.2.2 _ (List.mem_map_of_mem hx) id List.mem_cons_self).symm

/-! ## Sends -/

theorem mem_of_send? {t : Token} {p : Pending} (h : c.send? t = some p) :
    p ∈ c.sends ∧ p.token = t :=
  ⟨List.mem_of_find?_eq_some h, by simpa using List.find?_some h⟩

theorem tell_sends (t : Token) (result : Except ConnectionError Response) :
    (c.tell t result).sends = c.sends.map fun p => if p.token = t then p.hear result else p := rfl

/-- Nobody is told who is not there. -/
theorem tell_of_absent {t : Token} (ht : ∀ p ∈ c.sends, p.token ≠ t)
    (result : Except ConnectionError Response) : c.tell t result = c := by
  have hs : (c.sends.map fun p => if p.token = t then p.hear result else p) = c.sends := by
    refine (List.map_congr_left fun p hp => ?_).trans (List.map_id _)
    rw [if_neg (ht p hp)]
    rfl
  exact congrArg (fun sends => { c with sends }) hs

/-- Nothing is given up when nobody waits for the number. -/
theorem unpark_of_absent {id : UInt32} (h : ∀ t, (id, t) ∉ c.callbacks) : c.unpark id = c := by
  have hl : c.callbacks.lookup id = none := by
    rw [List.lookup_eq_none_iff]
    intro x hx
    simp only [bne_iff_ne, ne_eq]
    rintro rfl
    exact h x.2 hx
  unfold unpark
  rw [hl]

/-- Nobody waits under the next number. -/
theorem Kept.free (h : c.Kept begun) (ha : c.Apart (begun + 1)) (t : Token) :
    (UInt32.ofNat begun, t) ∉ c.callbacks := by
  intro ht
  obtain ⟨p, hp, -, hid, -⟩ := (h.waiting _ _).1 ht
  obtain ⟨hlt, hpid⟩ := h.numbered p hp
  exact Nat.ne_of_gt hlt (eq_of_ofNat_eq (hid.symm.trans hpid) (Nat.le_of_lt hlt) (ha p hp))

/-- A send that starts waits under the next number. -/
theorem start_eq (h : c.Kept begun) (ha : c.Apart (begun + 1)) (ho : c.closed = false)
    (r : Request) :
    c.start begun r = (.ok { id := UInt32.ofNat begun, body := r },
      { c with
        nextId := UInt32.ofNat (begun + 1)
        callbacks := (UInt32.ofNat begun, begun) :: c.callbacks
        sends := c.sends ++
          [{ token := begun, id := UInt32.ofNat begun, written := false, told := none }] }) := by
  simp only [start, ho, Bool.false_eq_true, if_false, h.nextId, unpark_of_absent (h.free ha),
    ofNat_add_one]

/-- A send under a number that nobody waits for is one more. -/
theorem Kept.begin (h : c.Kept begun) (hf : ∀ t, (UInt32.ofNat begun, t) ∉ c.callbacks) :
    Kept { c with
      nextId := UInt32.ofNat (begun + 1)
      callbacks := (UInt32.ofNat begun, begun) :: c.callbacks
      sends := c.sends ++
        [{ token := begun, id := UInt32.ofNat begun, written := false, told := none }] }
      (begun + 1) := by
  refine ⟨?_, ?_, rfl, ?_, ?_⟩
  · rw [List.map_append, List.nodup_append]
    refine ⟨h.tokens, List.nodup_singleton _, ?_⟩
    intro t ht t' ht' he
    obtain ⟨p, hp, rfl⟩ := List.mem_map.1 ht
    rw [List.map_singleton, List.mem_singleton] at ht'
    exact Nat.ne_of_lt (h.numbered p hp).1 (he.trans ht')
  · intro p hp
    rcases List.mem_append.1 hp with hp | hp
    · exact ⟨Nat.lt_succ_of_lt (h.numbered p hp).1, (h.numbered p hp).2⟩
    · rw [List.mem_singleton.1 hp]
      exact ⟨Nat.lt_succ_self begun, rfl⟩
  · rw [List.map_cons, List.nodup_cons]
    refine ⟨fun hm => ?_, h.keys⟩
    obtain ⟨⟨id, t⟩, hx, rfl⟩ := List.mem_map.1 hm
    exact hf t hx
  · intro id t
    simp only [List.mem_cons, Prod.mk.injEq, h.waiting, List.mem_append, List.not_mem_nil, or_false]
    constructor
    · rintro (⟨rfl, rfl⟩ | ⟨p, hp, hrest⟩)
      · exact ⟨_, .inr rfl, rfl, rfl, rfl⟩
      · exact ⟨p, .inl hp, hrest⟩
    · rintro ⟨p, hp | rfl, ht, hid, htold⟩
      · exact .inr ⟨p, hp, ht, hid, htold⟩
      · exact .inl ⟨hid.symm, ht.symm⟩

theorem noteWritten_sends (t : Token) :
    (c.noteWritten t).sends =
      c.sends.map fun p => if p.token = t then { p with written := true } else p := rfl

/-- What the sends are told, or whether they are written, has nothing to do with who they are. -/
theorem Kept.of_map (h : c.Kept begun) {c' : Rpc} {f : Pending → Pending}
    (hf : ∀ p, (f p).token = p.token ∧ (f p).id = p.id) (hs : c'.sends = c.sends.map f)
    (hn : c'.nextId = c.nextId) (hk : (c'.callbacks.map Prod.fst).Nodup)
    (hw : ∀ id t, (id, t) ∈ c'.callbacks ↔
      ∃ p ∈ c.sends, p.token = t ∧ p.id = id ∧ (f p).told = none) : c'.Kept begun := by
  refine ⟨?_, ?_, hn.trans h.nextId, hk, fun id t => ?_⟩
  · have he : (c.sends.map f).map Pending.token = c.sends.map Pending.token := by
      rw [List.map_map]
      exact List.map_congr_left fun p _ => (hf p).1
    rw [hs, he]
    exact h.tokens
  · rw [hs]
    intro q hq
    obtain ⟨p, hp, rfl⟩ := List.mem_map.1 hq
    rw [(hf p).1, (hf p).2]
    exact h.numbered p hp
  · rw [hw, hs]
    constructor
    · rintro ⟨p, hp, ht, hid, htold⟩
      exact ⟨f p, List.mem_map_of_mem hp, (hf p).1.trans ht, (hf p).2.trans hid, htold⟩
    · rintro ⟨q, hq, ht, hid, htold⟩
      obtain ⟨p, hp, rfl⟩ := List.mem_map.1 hq
      exact ⟨p, hp, (hf p).1.symm.trans ht, (hf p).2.symm.trans hid, htold⟩

theorem noteWritten_kept (h : c.Kept begun) (t : Token) : (c.noteWritten t).Kept begun := by
  refine h.of_map (fun p => ?_) (noteWritten_sends t) rfl h.keys fun id t' => ?_
  · split <;> exact ⟨rfl, rfl⟩
  · have htold : ∀ p : Pending, (if p.token = t then { p with written := true } else p).told = p.told :=
      fun p => by split <;> rfl
    simp only [htold]
    exact h.waiting id t'

/-! ## The end of a send -/

/-- A send that is over takes nothing with it but itself and its place in the table. -/
theorem finish_eq (h : c.Kept begun) (ha : c.Apart begun) {p : Pending} (hp : p ∈ c.sends) :
    c.finish p = { c with
      sends := c.sends.filter (·.token ≠ p.token)
      callbacks := c.callbacks.filter (·.1 ≠ p.id) } := by
  unfold finish unpark
  dsimp only
  split
  · next t ht =>
    obtain ⟨q, hq, rfl, hid, -⟩ := (h.waiting _ _).1 (h.lookup_eq_some.1 ht)
    obtain rfl := h.eq_of_id ha hq hp hid
    refine tell_of_absent (fun r hr => ?_) _
    exact of_decide_eq_true (List.mem_filter.1 hr).2
  · next hn =>
    have hf : c.callbacks.filter (·.1 ≠ p.id) = c.callbacks := by
      refine List.filter_eq_self.2 fun x hx => decide_eq_true ?_
      exact (bne_iff_ne.1 (List.lookup_eq_none_iff.1 hn x hx)).symm
    rw [hf]

theorem Kept.mem_finish (h : c.Kept begun) (ha : c.Apart begun) {p q : Pending}
    (hp : p ∈ c.sends) : q ∈ (c.finish p).sends ↔ q ∈ c.sends ∧ q.token ≠ p.token := by
  rw [finish_eq h ha hp, List.mem_filter, decide_eq_true_eq]

/-! ## The peer -/

/-- Whoever waits under a number is told a result. -/
def answer (id : UInt32) (result : Except ConnectionError Response) (c : Rpc) : Rpc :=
  match c.callbacks.lookup id with
  | some t => { c with callbacks := c.callbacks.filter (·.1 ≠ id) }.tell t result
  | none => c

theorem answer_eq (id : UInt32) (result : Except ConnectionError Response) :
    c.answer id result = { c with
      sends := c.sends.map fun p =>
        if c.callbacks.lookup id = some p.token then p.hear result else p
      callbacks := c.callbacks.filter (·.1 ≠ id) } := by
  unfold answer
  cases hl : c.callbacks.lookup id with
  | some t =>
    have he : ∀ p : Pending, (some t = some p.token) = (p.token = t) := fun p =>
      propext ⟨fun h => (Option.some.inj h).symm, fun h => congrArg some h.symm⟩
    simp only [he]
    rfl
  | none =>
    have hf : c.callbacks.filter (·.1 ≠ id) = c.callbacks := by
      refine List.filter_eq_self.2 fun x hx => decide_eq_true ?_
      exact (bne_iff_ne.1 (List.lookup_eq_none_iff.1 hl x hx)).symm
    simp only [hf, reduceCtorEq, if_false, List.map_id']

/-- Who waits for a number is told, and nobody else. -/
theorem Kept.lookup_token (h : c.Kept begun) {id : UInt32} {p : Pending} (hp : p ∈ c.sends)
    (hn : p.told = none) : c.callbacks.lookup id = some p.token ↔ p.id = id := by
  rw [h.lookup_eq_some, h.waiting]
  constructor
  · rintro ⟨q, hq, ht, rfl, -⟩
    rw [List.inj_on_of_nodup_map h.tokens hq hp ht]
  · exact fun hid => ⟨p, hp, rfl, hid, hn⟩

/-- After an answer, those still wait who waited for another one. -/
theorem Kept.told_of_answer (h : c.Kept begun) (id : UInt32)
    (result : Except ConnectionError Response) {p : Pending} (hp : p ∈ c.sends) :
    (if c.callbacks.lookup id = some p.token then p.hear result else p).told = none ↔
      p.told = none ∧ p.id ≠ id := by
  split
  · next hl =>
    rw [Pending.hear_told]
    refine ⟨nofun, fun hn => ?_⟩
    exact absurd ((h.lookup_token hp hn.1).1 hl) hn.2
  · next hl => exact ⟨fun hn => ⟨hn, fun hid => hl ((h.lookup_token hp hn).2 hid)⟩, And.left⟩

theorem answer_kept (h : c.Kept begun) (id : UInt32) (result : Except ConnectionError Response) :
    (c.answer id result).Kept begun := by
  rw [answer_eq]
  refine h.of_map (fun p => ?_) rfl rfl (h.keys.sublist (List.filter_sublist.map _)) fun id' t => ?_
  · split <;> simp
  · simp only [List.mem_filter, h.waiting, decide_eq_true_eq]
    constructor
    · rintro ⟨⟨p, hp, ht, rfl, hn⟩, hne⟩
      exact ⟨p, hp, ht, rfl, (h.told_of_answer id result hp).2 ⟨hn, hne⟩⟩
    · rintro ⟨p, hp, ht, rfl, hn⟩
      obtain ⟨hn, hne⟩ := (h.told_of_answer id result hp).1 hn
      exact ⟨⟨p, hp, ht, rfl, hn⟩, hne⟩

/-- A response tells whoever waits for its number. -/
theorem dispatch_eq (f : ResponseFrame) :
    c.dispatch f = { c with
      sends := c.sends.map fun p =>
        if c.callbacks.lookup f.id = some p.token then p.hear (.ok f.body) else p
      callbacks := c.callbacks.filter (·.1 ≠ f.id) } :=
  answer_eq f.id (.ok f.body)

theorem dispatch_kept (h : c.Kept begun) (f : ResponseFrame) : (c.dispatch f).Kept begun :=
  answer_kept h f.id (.ok f.body)

/-! ## Numbers that are given up -/

/-- A number that is given up is waited for no more. -/
theorem unpark_free (id : UInt32) (t : Token) : (id, t) ∉ (c.unpark id).callbacks := by
  rw [show c.unpark id = c.answer id (.error .channelClosed) from rfl, answer_eq]
  exact fun hm => absurd rfl (of_decide_eq_true (List.mem_filter.1 hm).2)

theorem unpark_kept (h : c.Kept begun) (id : UInt32) : (c.unpark id).Kept begun :=
  answer_kept h id (.error .channelClosed)

/-- A send starts when whoever waited under its number has been told that the wait was given up. -/
theorem start_eq_unpark (h : c.Kept begun) (ho : c.closed = false) (r : Request) :
    c.start begun r = (.ok { id := UInt32.ofNat begun, body := r },
      { c.unpark (UInt32.ofNat begun) with
        nextId := UInt32.ofNat (begun + 1)
        callbacks := (UInt32.ofNat begun, begun) :: (c.unpark (UInt32.ofNat begun)).callbacks
        sends := (c.unpark (UInt32.ofNat begun)).sends ++
          [{ token := begun, id := UInt32.ofNat begun, written := false, told := none }] }) := by
  simp only [start, ho, Bool.false_eq_true, if_false, h.nextId, ofNat_add_one]

theorem start_kept (h : c.Kept begun) (ho : c.closed = false) (r : Request) :
    (c.start begun r).2.Kept (begun + 1) := by
  rw [start_eq_unpark h ho]
  exact (unpark_kept h _).begin (unpark_free _)

/-- A send that is over is gone, and whoever waits under its number is told so. -/
theorem finish_eq_unpark (p : Pending) :
    c.finish p = { c.unpark p.id with
      sends := (c.unpark p.id).sends.filter (·.token ≠ p.token) } := by
  have hu : ∀ c : Rpc, c.unpark p.id = c.answer p.id (.error .channelClosed) := fun _ => rfl
  simp only [finish, hu, answer_eq, List.filter_map]
  congr 3
  funext q
  simp only [Function.comp_apply]
  split <;> simp

/-- Whoever is left was there before, and is another. -/
theorem mem_of_mem_finish {p q : Pending} (hq : q ∈ (c.finish p).sends) :
    ∃ r ∈ c.sends, r.token = q.token ∧ r.written = q.written ∧ q.token ≠ p.token := by
  rw [finish_eq_unpark] at hq
  obtain ⟨hq, hne⟩ := List.mem_filter.1 hq
  rw [show c.unpark p.id = c.answer p.id (.error .channelClosed) from rfl, answer_eq] at hq
  obtain ⟨r, hr, rfl⟩ := List.mem_map.1 hq
  refine ⟨r, hr, ?_, ?_, of_decide_eq_true hne⟩ <;> split <;> simp

theorem finish_kept (h : c.Kept begun) {p : Pending} (hp : p ∈ c.sends) :
    (c.finish p).Kept begun := by
  have hu := unpark_kept h p.id
  rw [finish_eq_unpark]
  have hsub : ((c.unpark p.id).sends.filter (·.token ≠ p.token)).Sublist (c.unpark p.id).sends :=
    List.filter_sublist
  refine ⟨hu.tokens.sublist (hsub.map _), fun q hq => hu.numbered q (hsub.subset hq), hu.nextId,
    hu.keys, fun id t => ?_⟩
  rw [hu.waiting]
  constructor
  · rintro ⟨q, hq, rfl, rfl, hn⟩
    refine ⟨q, List.mem_filter.2 ⟨hq, decide_eq_true fun ht => ?_⟩, rfl, rfl, hn⟩
    -- a send of that name has that number, and nobody waits under it
    have hid : q.id = p.id := by rw [(hu.numbered q hq).2, (h.numbered p hp).2, ht]
    exact unpark_free p.id q.token (hid ▸ (hu.waiting _ _).2 ⟨q, hq, rfl, rfl, hn⟩)
  · rintro ⟨q, hq, hrest⟩
    exact ⟨q, hsub.subset hq, hrest⟩

theorem foldl_tell (entries : List (UInt32 × Token)) (result : Except ConnectionError Response)
    (c : Rpc) :
    entries.foldl (fun c entry => c.tell entry.2 result) c = { c with
      sends := c.sends.map fun p => if p.token ∈ entries.map Prod.snd then p.hear result else p } := by
  induction entries generalizing c with
  | nil => simp
  | cons x rest ih =>
    rw [List.foldl_cons, ih, tell_sends, List.map_map]
    have hone : ∀ p : Pending,
        (if (if p.token = x.2 then p.hear result else p).token ∈ rest.map Prod.snd then
          (if p.token = x.2 then p.hear result else p).hear result
        else if p.token = x.2 then p.hear result else p) =
        if p.token ∈ (x :: rest).map Prod.snd then p.hear result else p := by
      intro p
      by_cases hx : p.token = x.2
      · simp [hx, Pending.hear_hear]
      · simp only [hx, if_false, List.map_cons, List.mem_cons, false_or]
    exact congrArg (fun sends => { c with sends }) (List.map_congr_left fun p _ => hone p)

/-- At the end of the messages, whoever waits is told so. -/
theorem shutdown_eq (c : Rpc) :
    c.shutdown = { c with
      sends := c.sends.map fun p =>
        if p.token ∈ c.callbacks.map Prod.snd then p.hear (.error .connectionClosed) else p
      callbacks := []
      closed := true } :=
  foldl_tell _ _ _

theorem Kept.mem_tokens (h : c.Kept begun) {p : Pending} (hp : p ∈ c.sends) (hn : p.told = none) :
    p.token ∈ c.callbacks.map Prod.snd :=
  List.mem_map_of_mem ((h.waiting p.id p.token).2 ⟨p, hp, rfl, rfl, hn⟩)

/-- After the end, nobody waits. -/
theorem Kept.told_of_shutdown (h : c.Kept begun) {p : Pending} (hp : p ∈ c.sends) :
    (if p.token ∈ c.callbacks.map Prod.snd then p.hear (.error .connectionClosed) else p).told ≠
      none := by
  split
  · rw [Pending.hear_told]
    exact Option.some_ne_none _
  · next hm => exact fun hn => hm (h.mem_tokens hp hn)

theorem shutdown_kept (h : c.Kept begun) : c.shutdown.Kept begun := by
  rw [shutdown_eq]
  refine h.of_map (fun p => ?_) rfl rfl List.nodup_nil fun id t => ?_
  · split <;> simp
  · refine ⟨fun hm => absurd hm List.not_mem_nil, ?_⟩
    rintro ⟨p, hp, ht, hid, hn⟩
    exact absurd hn (h.told_of_shutdown hp)

theorem initial_kept : initial.Kept 0 where
  tokens := List.nodup_nil
  numbered _ hp := absurd hp List.not_mem_nil
  nextId := rfl
  keys := List.nodup_nil
  waiting _ _ := ⟨fun h => absurd h List.not_mem_nil, fun ⟨_, hp, _⟩ => absurd hp List.not_mem_nil⟩

end

end Rpc

end ClusterSession
