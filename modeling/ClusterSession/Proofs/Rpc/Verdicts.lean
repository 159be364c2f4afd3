/-
  ClusterSession: what a send is told.

  Nothing is asked of the numbers here: they may come round to sends that are not over.

  * `Entry.verdict?`: what an entry of the log tells whoever waits under a number.
  * `verdict`: the first that a send was told since it started.
  * `Line.Heard`: a send knows its verdict, and it ends with that or with the fault of its
    own write.
  * `run_heard`: this holds at any time.
-/
import ClusterSession.Proofs.Rpc.Lines
import Mathlib.Data.List.Induction
import Mathlib.Data.List.TakeWhile

namespace ClusterSession

open Json

/-! ## Verdicts -/

namespace Entry

/-- What an entry tells whoever waits under a number. -/
def verdict? (id : UInt32) : Entry → Option (Except ConnectionError Response)
  | read frame => if frame.id = id then some (.ok frame.body) else none
  | closed => some (.error .connectionClosed)
  -- the number is given to another send, or goes with another send that had it
  | began _ frame => if frame.id = id then some (.error .channelClosed) else none
  | ended t _ | abandoned t => if UInt32.ofNat t = id then some (.error .channelClosed) else none
  | _ => none

/-- The send has started. -/
def begins (t : Token) : Entry → Bool
  | began t' _ => t' = t
  | _ => false

theorem begins_eq_true {t : Token} {e : Entry} : e.begins t = true ↔ ∃ frame, e = .began t frame := by
  cases e <;> simp [begins]

end Entry

/-- The log since the send started. -/
def since (log : List Entry) (t : Token) : List Entry :=
  (log.dropWhile fun e => !e.begins t).tail

/-- What the send was told first since it started. -/
def verdict (log : List Entry) (t : Token) : Option (Except ConnectionError Response) :=
  (since log t).findSome? (Entry.verdict? (UInt32.ofNat t))

section
variable {log : List Entry} {t : Token}

theorem since_append (h : ∃ x ∈ log, x.begins t = true) (rest : List Entry) :
    since (log ++ rest) t = since log t ++ rest := by
  have hne : log.dropWhile (fun e => !e.begins t) ≠ [] := by
    intro hd
    obtain ⟨x, hx, hb⟩ := h
    have := List.dropWhile_eq_nil_iff.1 hd x hx
    rw [hb] at this
    cases this
  unfold since
  rw [List.dropWhile_append, List.isEmpty_eq_false_iff.2 hne, if_neg Bool.false_ne_true,
    List.tail_append_of_ne_nil hne]

/-- The log since the send started, if it started once. -/
theorem since_eq {before after : List Entry} {frame : RequestFrame}
    (h : ∀ x ∈ before, x.begins t = false) :
    since (before ++ .began t frame :: after) t = after := by
  unfold since
  rw [List.dropWhile_append_of_pos fun x hx => by rw [h x hx]; rfl,
    List.dropWhile_cons_of_neg (by simp [Entry.begins])]
  rfl

/-- Only what a send is told first counts. -/
theorem verdict_append (h : ∃ x ∈ log, x.begins t = true) (rest : List Entry) :
    verdict (log ++ rest) t =
      (verdict log t).or (rest.findSome? (Entry.verdict? (UInt32.ofNat t))) := by
  unfold verdict
  rw [since_append h, List.findSome?_append]

theorem verdict_concat (h : ∃ x ∈ log, x.begins t = true) (e : Entry) :
    verdict (log ++ [e]) t = (verdict log t).or (e.verdict? (UInt32.ofNat t)) := by
  rw [verdict_append h]
  cases he : e.verdict? (UInt32.ofNat t) <;> simp [List.findSome?, he]

end

/-- Sends are named and numbered in the order in which they start. -/
def Numbered (log : List Entry) : Prop :=
  ∀ before t frame after, log = before ++ .began t frame :: after →
    t = before.countP Entry.starts ∧ frame.id = UInt32.ofNat t

theorem Numbered.append {past rest : List Entry} (h : Numbered (past ++ rest)) : Numbered past := by
  rintro before t frame after rfl
  exact h before t frame (after ++ rest) (by rw [List.append_assoc, List.cons_append])

theorem Numbered.lt_of_mem {log : List Entry} (h : Numbered log) {t : Token} {frame : RequestFrame}
    (hm : .began t frame ∈ log) : t < log.countP Entry.starts := by
  obtain ⟨before, after, rfl⟩ := List.append_of_mem hm
  obtain ⟨rfl, -⟩ := h before t frame after rfl
  rw [List.countP_append, List.countP_cons_of_pos rfl]
  exact Nat.lt_add_of_pos_right (Nat.succ_pos _)

/-- A send starts once. -/
theorem Numbered.since_eq {before after : List Entry} {t : Token} {frame : RequestFrame}
    (h : Numbered (before ++ .began t frame :: after)) :
    since (before ++ .began t frame :: after) t = after := by
  refine ClusterSession.since_eq fun x hx => ?_
  cases hb : x.begins t with
  | false => rfl
  | true =>
    obtain ⟨frame', rfl⟩ := Entry.begins_eq_true.1 hb
    have hlt := h.append.lt_of_mem hx
    rw [← (h before t frame after rfl).1] at hlt
    exact absurd hlt (Nat.lt_irrefl t)

/-- A send hears of an entry. -/
def Pending.heed (e : Entry) (p : Pending) : Pending :=
  { p with told := p.told.or (e.verdict? p.id) }

theorem Pending.heed_of_none {e : Entry} {p : Pending} (h : e.verdict? p.id = none) :
    p.heed e = p := by
  unfold heed
  rw [h, Option.or_none]

/-- Whoever was told before hears nothing new. -/
theorem Pending.heed_of_told {e : Entry} {p : Pending} {result : Except ConnectionError Response}
    (h : p.told = some result) : p.heed e = p := by
  unfold heed
  rw [h, Option.some_or, ← h]

theorem Pending.hear_eq (result : Except ConnectionError Response) (p : Pending) :
    p.hear result = { p with told := p.told.or (some result) } := by
  unfold hear
  cases h : p.told with
  | none => rfl
  | some r =>
    simp only [Option.isSome_some, if_true, Option.some_or]
    rw [← h]

/-! ## The sends and the table -/

namespace Rpc

section
variable {c : Rpc} {begun : Nat}

/-- An answer is heard by those who have its number, and counts for the one that waits. -/
theorem answer_sends (h : c.Kept begun) {id : UInt32} {result : Except ConnectionError Response}
    {e : Entry} (he : ∀ id', e.verdict? id' = if id = id' then some result else none) :
    (c.answer id result).sends = c.sends.map (Pending.heed e) := by
  rw [answer_eq]
  refine List.map_congr_left fun p hp => ?_
  cases hn : p.told with
  | none =>
    rw [if_congr (h.lookup_token hp hn) rfl rfl]
    unfold Pending.heed
    rw [he, Pending.hear_eq]
    by_cases hid : p.id = id
    · rw [if_pos hid, if_pos hid.symm]
    · rw [if_neg hid, if_neg (Ne.symm hid), Option.or_none]
  | some r =>
    have hhear : p.hear result = p := by
      rw [Pending.hear_eq, hn, Option.some_or, ← hn]
    rw [Pending.heed_of_told hn, hhear, ite_self]

theorem shutdown_sends (h : c.Kept begun) :
    c.shutdown.sends = c.sends.map (Pending.heed .closed) := by
  rw [shutdown_eq]
  refine List.map_congr_left fun p hp => ?_
  split
  · exact Pending.hear_eq _ _
  · next hm =>
    have hn : p.told ≠ none := fun hn => hm (h.mem_tokens hp hn)
    obtain ⟨r, hr⟩ := Option.ne_none_iff_exists'.1 hn
    exact (Pending.heed_of_told hr).symm

/-- A send that is over is gone; others have heard of it. -/
theorem finish_sends (h : c.Kept begun) {p : Pending} {e : Entry}
    (he : ∀ id, e.verdict? id = if p.id = id then some (.error .channelClosed) else none) :
    (c.finish p).sends = (c.sends.map (Pending.heed e)).filter (·.token ≠ p.token) := by
  rw [finish_eq_unpark, ← answer_sends h he]
  rfl

end

end Rpc

namespace Line

/-- A send knows what the log tells it, and ends with that or with the fault of its own write. -/
structure Heard (l : Line) : Prop where
  kept : l.rpc.Kept l.begun
  count : l.begun = l.log.countP Entry.starts
  numbered : Numbered l.log
  pends : ∀ t id, Pends l.log t id ↔ ∃ p ∈ l.rpc.sends, p.token = t ∧ p.id = id
  told : ∀ p ∈ l.rpc.sends, p.told = verdict l.log p.token
  ended : ∀ before t result after, l.log = before ++ .ended t result :: after →
    verdict before t = some result ∨ ∃ e, result = .error e ∧ .wrote t (.error e) ∈ before
  pended : ∀ before e after t, l.log = before ++ e :: after → e.ends t = true →
    ∃ id, Pends before t id
  closed : l.rpc.closed = true ↔ .closed ∈ l.log
  quiet : l.rpc.closed = true → l.rpc.callbacks = []

section
variable {l : Line}

theorem Heard.begins (h : l.Heard) {p : Pending} (hp : p ∈ l.rpc.sends) :
    ∃ x ∈ l.log, x.begins p.token = true := by
  obtain ⟨before, frame, after, hlog, -⟩ := (h.pends _ _).2 ⟨p, hp, rfl, rfl⟩
  exact ⟨.began p.token frame, hlog ▸ List.mem_append_right _ List.mem_cons_self, by
    simp [Entry.begins]⟩

theorem Heard.send?_eq (h : l.Heard) {p : Pending} (hp : p ∈ l.rpc.sends) :
    l.rpc.send? p.token = some p := by
  cases hs : l.rpc.send? p.token with
  | none => exact absurd (decide_eq_true rfl) (List.find?_eq_none.1 hs p hp)
  | some q =>
    obtain ⟨hq, ht⟩ := Rpc.mem_of_send? hs
    rw [List.inj_on_of_nodup_map h.kept.tokens hq hp ht]

/-- An entry that starts no send is heard by those that are not over. -/
theorem Heard.enter (h : l.Heard) {e : Entry} {rpc : Rpc} {frames : List (Token × RequestFrame)}
    {inbound : List Value} (hs : e.starts = false) (hk : rpc.Kept l.begun)
    (hsends : rpc.sends = (l.rpc.sends.map (Pending.heed e)).filter (!e.ends ·.token))
    (hover : ∀ t, e.ends t = true → ∃ id, Pends l.log t id)
    (hended : ∀ t result, e = .ended t result →
      verdict l.log t = some result ∨ ∃ x, result = .error x ∧ .wrote t (.error x) ∈ l.log)
    (hclosed : rpc.closed = true ↔ l.rpc.closed = true ∨ e = .closed)
    (hquiet : rpc.closed = true → rpc.callbacks = []) :
    Heard { l with rpc, frames, inbound, log := l.log ++ [e] } where
  kept := hk
  count := by
    rw [List.countP_append, List.countP_singleton, hs]
    exact h.count
  numbered before t frame after hlog := by
    rcases concat_eq_iff.1 hlog with ⟨-, rfl, -⟩ | ⟨rest, hold, -⟩
    · cases hs
    · exact h.numbered before t frame rest hold
  pends t id := by
    refine (since_concat_iff hs).trans ?_
    rw [show Since (Entry.ends t) l.log t id ↔ _ from h.pends t id, hsends]
    simp only [List.mem_filter, List.mem_map, Bool.not_eq_true']
    constructor
    · rintro ⟨⟨p, hp, rfl, rfl⟩, he⟩
      exact ⟨p.heed e, ⟨⟨p, hp, rfl⟩, he⟩, rfl, rfl⟩
    · rintro ⟨_, ⟨⟨p, hp, rfl⟩, he⟩, rfl, rfl⟩
      exact ⟨⟨p, hp, rfl, rfl⟩, he⟩
  told q hq := by
    rw [hsends] at hq
    obtain ⟨p, hp, rfl⟩ := List.mem_map.1 (List.mem_of_mem_filter hq)
    show p.told.or (e.verdict? p.id) = verdict (l.log ++ [e]) p.token
    rw [verdict_concat (h.begins hp), h.told p hp, (h.kept.numbered p hp).2]
  ended before t result after hlog := by
    rcases concat_eq_iff.1 hlog with ⟨rfl, he, -⟩ | ⟨rest, hold, -⟩
    · exact hended t result he
    · exact h.ended before t result rest hold
  pended before x after t hlog hx := by
    rcases concat_eq_iff.1 hlog with ⟨rfl, rfl, -⟩ | ⟨rest, hold, -⟩
    · exact hover t hx
    · exact h.pended before x rest t hold hx
  closed := by
    rw [hclosed, h.closed, List.mem_append, List.mem_singleton]
    exact or_congr_right eq_comm
  quiet := hquiet

/-- An entry that tells nobody anything. -/
theorem Heard.note (h : l.Heard) {e : Entry} {frames : List (Token × RequestFrame)}
    {inbound : List Value} (hs : e.starts = false) (he : ∀ t, e.ends t = false)
    (hv : ∀ id, e.verdict? id = none) :
    Heard { l with frames, inbound, log := l.log ++ [e] } := by
  refine h.enter hs h.kept ?_ (fun t ht => ?_) (fun t result hr => ?_) ?_ h.quiet
  · have hmap : l.rpc.sends.map (Pending.heed e) = l.rpc.sends :=
      (List.map_congr_left fun p _ => Pending.heed_of_none (hv p.id)).trans (List.map_id _)
    rw [hmap]
    exact (List.filter_eq_self.2 fun p _ => by rw [he]; rfl).symm
  · rw [he] at ht
    cases ht
  · have hend := he t
    rw [hr] at hend
    simp [Entry.ends] at hend
  · refine (or_iff_left ?_).symm
    rintro rfl
    exact absurd (hv 0) (Option.some_ne_none _)

/-- A send is over. -/
theorem Heard.finish (h : l.Heard) {p : Pending} (hp : p ∈ l.rpc.sends) {e : Entry}
    {frames : List (Token × RequestFrame)} (hs : e.starts = false) (hc : e ≠ .closed)
    (hend : ∀ t, e.ends t = decide (p.token = t))
    (hv : ∀ id, e.verdict? id = if p.id = id then some (.error .channelClosed) else none)
    (hended : ∀ t result, e = .ended t result →
      verdict l.log t = some result ∨ ∃ x, result = .error x ∧ .wrote t (.error x) ∈ l.log) :
    Heard { l with rpc := l.rpc.finish p, frames, log := l.log ++ [e] } := by
  have hfinish := Rpc.finish_eq_unpark (c := l.rpc) p
  have hunpark : l.rpc.unpark p.id = l.rpc.answer p.id (.error .channelClosed) := rfl
  have hclosed : (l.rpc.finish p).closed = l.rpc.closed := by
    rw [hfinish, hunpark, Rpc.answer_eq]
  refine h.enter hs (Rpc.finish_kept h.kept hp) ?_ (fun t ht => ?_) hended ?_ fun hcl => ?_
  · rw [Rpc.finish_sends h.kept hv]
    refine List.filter_congr fun q _ => ?_
    rw [hend]
    simp [eq_comm]
  · rw [hend] at ht
    exact ⟨p.id, (h.pends _ _).2 ⟨p, hp, of_decide_eq_true ht, rfl⟩⟩
  · rw [hclosed]
    exact (or_iff_left hc).symm
  · rw [hfinish, hunpark, Rpc.answer_eq]
    show l.rpc.callbacks.filter _ = []
    rw [h.quiet (hclosed ▸ hcl)]
    rfl

/-- What is known of a send, but for its frame, is the same. -/
theorem Heard.noteWritten (h : l.Heard) (t : Token) :
    Heard { l with rpc := l.rpc.noteWritten t } := by
  have hsame : ∀ q ∈ (l.rpc.noteWritten t).sends,
      ∃ p ∈ l.rpc.sends, q.token = p.token ∧ q.id = p.id ∧ q.told = p.told := by
    intro q hq
    rw [Rpc.noteWritten_sends] at hq
    obtain ⟨p, hp, rfl⟩ := List.mem_map.1 hq
    refine ⟨p, hp, ?_⟩
    split <;> exact ⟨rfl, rfl, rfl⟩
  refine ⟨Rpc.noteWritten_kept h.kept t, h.count, h.numbered, fun u id => ?_, fun q hq => ?_, h.ended,
    h.pended, h.closed, h.quiet⟩
  · rw [h.pends]
    constructor
    · rintro ⟨p, hp, rfl, rfl⟩
      rw [Rpc.noteWritten_sends]
      exact ⟨_, List.mem_map_of_mem hp, by split <;> rfl, by split <;> rfl⟩
    · rintro ⟨q, hq, rfl, rfl⟩
      obtain ⟨p, hp, ht, hid, -⟩ := hsame q hq
      exact ⟨p, hp, ht.symm, hid.symm⟩
  · obtain ⟨p, hp, ht, -, htold⟩ := hsame q hq
    rw [htold, ht]
    exact h.told p hp

theorem unpark_closed (c : Rpc) (id : UInt32) : (c.unpark id).closed = c.closed := by
  rw [show c.unpark id = c.answer id (.error .channelClosed) from rfl, Rpc.answer_eq]

/-- A send starts, under a number that may have come round. -/
theorem Heard.begin (h : l.Heard) (ho : l.rpc.closed = false) (r : Request) : (l.send r).Heard := by
  have hk := Rpc.start_kept h.kept ho r
  unfold Line.send
  rw [Rpc.start_eq_unpark h.kept ho] at hk ⊢
  let e : Entry := .began l.begun { id := UInt32.ofNat l.begun, body := r }
  have hunpark : (l.rpc.unpark (UInt32.ofNat l.begun)).sends = l.rpc.sends.map (Pending.heed e) :=
    Rpc.answer_sends h.kept fun _ => rfl
  have hnumbered : Numbered (l.log ++ [e]) := by
    intro before t frame after hlog
    rcases concat_eq_iff.1 hlog with ⟨rfl, he, -⟩ | ⟨rest, hold, -⟩
    · obtain ⟨rfl, rfl⟩ := Entry.began.inj he
      exact ⟨h.count, rfl⟩
    · exact h.numbered before t frame rest hold
  rw [hunpark] at hk ⊢
  refine
    { kept := hk
      count := ?_
      numbered := hnumbered
      pends := fun t id => ?_
      told := fun q hq => ?_
      ended := fun before t result after hlog => ?_
      pended := fun before x after t hlog hx => ?_
      closed := ?_
      quiet := fun hc => ?_ }
  · rw [List.countP_append, List.countP_singleton, ← h.count]
    rfl
  · refine (since_concat_began rfl).trans ?_
    rw [show Since (Entry.ends t) l.log t id ↔ _ from h.pends t id]
    simp only [List.mem_append, List.mem_map, List.mem_singleton]
    constructor
    · rintro (⟨rfl, rfl⟩ | ⟨p, hp, rfl, rfl⟩)
      · exact ⟨_, .inr rfl, rfl, rfl⟩
      · exact ⟨p.heed e, .inl ⟨p, hp, rfl⟩, rfl, rfl⟩
    · rintro ⟨q, ⟨p, hp, rfl⟩ | rfl, rfl, rfl⟩
      · exact .inr ⟨p, hp, rfl, rfl⟩
      · exact .inl ⟨rfl, rfl⟩
  · rcases List.mem_append.1 hq with hq | hq
    · obtain ⟨p, hp, rfl⟩ := List.mem_map.1 hq
      show p.told.or (e.verdict? p.id) = verdict (l.log ++ [e]) p.token
      rw [verdict_concat (h.begins hp), h.told p hp, (h.kept.numbered p hp).2]
    · rw [List.mem_singleton.1 hq]
      show none = verdict (l.log ++ [e]) l.begun
      unfold verdict
      rw [hnumbered.since_eq]
      rfl
  · rcases concat_eq_iff.1 hlog with ⟨-, he, -⟩ | ⟨rest, hold, -⟩
    · cases he
    · exact h.ended before t result rest hold
  · rcases concat_eq_iff.1 hlog with ⟨-, rfl, -⟩ | ⟨rest, hold, -⟩
    · cases hx
    · exact h.pended before x rest t hold hx
  · show (l.rpc.unpark _).closed = true ↔ _
    rw [unpark_closed, h.closed, List.mem_append, List.mem_singleton]
    exact (or_iff_left nofun).symm
  · replace hc : (l.rpc.unpark (UInt32.ofNat l.begun)).closed = true := hc
    rw [unpark_closed, ho] at hc
    cases hc

/-! ## Incidents -/

theorem Heard.send (h : l.Heard) (r : Request) : (l.send r).Heard := by
  cases ho : l.rpc.closed with
  | true =>
    have he : l.send r = { l with log := l.log ++ [.refused .connectionClosed] } := by
      simp only [Line.send, Rpc.start, ho, if_true]
    rw [he]
    exact h.note rfl (fun _ => rfl) fun _ => rfl
  | false => exact h.begin ho r

theorem Heard.hand (h : l.Heard) (t : Token) : (l.hand t).Heard := by
  unfold Line.hand
  split
  · exact h.note rfl (fun _ => rfl) fun _ => rfl
  · exact h

/-- A send that is over ends with a result that is its verdict, or the fault of its write. -/
theorem Heard.conclude (h : l.Heard) {p : Pending} (hp : p ∈ l.rpc.sends)
    {result : Except ConnectionError Response}
    (hr : p.told = some result ∨ ∃ e, result = .error e ∧ .wrote p.token (.error e) ∈ l.log) :
    Heard { l with rpc := l.rpc.finish p, log := l.log ++ [.ended p.token result] } := by
  refine h.finish hp rfl nofun (fun _ => rfl) (fun id => ?_) fun t result' he => ?_
  · rw [Entry.verdict?, (h.kept.numbered p hp).2]
  · cases he
    exact hr.imp_left fun htold => (h.told p hp).symm.trans htold

theorem Heard.resume (h : l.Heard) (t : Token) : (l.goOn t (l.rpc.resume t)).Heard := by
  unfold Rpc.resume
  cases hp : l.rpc.send? t with
  | none => exact h
  | some p =>
    obtain ⟨hm, rfl⟩ := Rpc.mem_of_send? hp
    dsimp only
    split
    · next result _ hr => exact h.conclude hm (.inl hr)
    · exact h

theorem Heard.wrote (h : l.Heard) (t : Token) (outcome : Except ConnectionError Unit) :
    (l.wrote t outcome).Heard := by
  unfold Line.wrote
  cases hp : l.rpc.send? t with
  | none => exact h
  | some p =>
    obtain ⟨hm, rfl⟩ := Rpc.mem_of_send? hp
    dsimp only
    split
    · have hn : Heard { l with log := l.log ++ [.wrote p.token outcome] } :=
        h.note rfl (fun _ => rfl) fun _ => rfl
      split
      · exact h
      · cases outcome with
        | ok _ => exact hn.noteWritten p.token
        | error e =>
          simp only [Rpc.written, hp]
          refine hn.conclude hm (.inr ⟨e, rfl, ?_⟩)
          exact List.mem_append_right _ List.mem_cons_self
    · exact h

theorem Heard.abandon (h : l.Heard) (t : Token) : (l.abandon t).Heard := by
  unfold Line.abandon Rpc.abandon
  cases hp : l.rpc.send? t with
  | none => exact h
  | some p =>
    obtain ⟨hm, rfl⟩ := Rpc.mem_of_send? hp
    refine h.finish hm rfl nofun (fun _ => rfl) (fun id => ?_) fun _ _ he => by cases he
    rw [Entry.verdict?, (h.kept.numbered p hm).2]

theorem Heard.dispatch (h : l.Heard) : l.dispatch.Heard := by
  unfold Line.dispatch
  split
  · next v rest hopen _ =>
    have ho : l.rpc.closed = false := by
      simpa using (Bool.and_eq_true_iff.1 hopen).2
    unfold Rpc.receive seen
    cases ResponseFrame.ofValue v with
    | ok f =>
      dsimp only
      have hc : (l.rpc.dispatch f).closed = l.rpc.closed := by rw [Rpc.dispatch_eq]
      refine h.enter rfl (Rpc.dispatch_kept h.kept f) ?_ (fun _ he => by cases he)
        (fun _ _ he => by cases he) ?_ fun hcl => ?_
      · rw [show l.rpc.dispatch f = l.rpc.answer f.id (.ok f.body) from rfl,
          Rpc.answer_sends h.kept (e := .read f) fun _ => rfl]
        exact (List.filter_eq_self.2 fun _ _ => rfl).symm
      · rw [hc]
        exact (or_iff_left nofun).symm
      · rw [hc, ho] at hcl
        cases hcl
    | error _ => exact h.note rfl (fun _ => rfl) fun _ => rfl
  · exact h

theorem Heard.close (h : l.Heard) : l.close.Heard := by
  unfold Line.close
  split
  · refine h.enter rfl (Rpc.shutdown_kept h.kept) ?_ (fun _ he => by cases he)
      (fun _ _ he => by cases he) ?_ fun _ => ?_
    · rw [Rpc.shutdown_sends h.kept]
      exact (List.filter_eq_self.2 fun _ _ => rfl).symm
    · rw [Rpc.shutdown_eq]
      exact iff_of_true rfl (.inr rfl)
    · rw [Rpc.shutdown_eq]
  · exact h

theorem step_heard (h : l.Heard) (i : Incident) : (l.step i).Heard := by
  cases i with
  | send r => exact h.send r
  | hand t => exact h.hand t
  | wrote t outcome => exact h.wrote t outcome
  | resume t => exact h.resume t
  | abandon t => exact h.abandon t
  | arrive v =>
    simp only [Line.step]
    split
    · exact h
    · exact ⟨h.kept, h.count, h.numbered, h.pends, h.told, h.ended, h.pended, h.closed, h.quiet⟩
  | hangUp => exact ⟨h.kept, h.count, h.numbered, h.pends, h.told, h.ended, h.pended, h.closed, h.quiet⟩
  | run => exact ⟨h.kept, h.count, h.numbered, h.pends, h.told, h.ended, h.pended, h.closed, h.quiet⟩
  | dispatch => exact h.dispatch
  | close => exact h.close

end

theorem initial_heard : initial.Heard where
  kept := Rpc.initial_kept
  count := rfl
  numbered before t frame after he :=
    absurd he.symm (List.append_ne_nil_of_right_ne_nil _ (List.cons_ne_nil _ _))
  pends t id := by
    refine iff_of_false not_since_nil ?_
    rintro ⟨p, hp, -⟩
    exact absurd hp List.not_mem_nil
  told _ hp := absurd hp List.not_mem_nil
  ended before t result after he :=
    absurd he.symm (List.append_ne_nil_of_right_ne_nil _ (List.cons_ne_nil _ _))
  pended before e after t he :=
    absurd he.symm (List.append_ne_nil_of_right_ne_nil _ (List.cons_ne_nil _ _))
  closed := by simp [initial, Rpc.initial]
  quiet _ := rfl

/-- **At any time, a send knows what the log tells it.** -/
theorem run_heard (is : List Incident) : (run is).Heard := by
  induction is using List.reverseRecOn with
  | nil => exact initial_heard
  | append_singleton is i ih =>
    rw [run_concat]
    exact step_heard ih i

end Line

end ClusterSession
