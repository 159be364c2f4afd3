/-
  ClusterSession: numbers that come round.

  A number is given out again after `2 ^ 32` sends, also if the one that had it is not over.

  * `Doubled`: while a send was not over, neither was another one that had its number.
    `Doubled.lapped`: that takes `2 ^ 32` sends that start later.
  * `doubled_of_awaits`: a send that still waits has been told nothing, unless its number
    was doubled.
  * `Line.rounds`: a send that is not answered, and others that come and go until its number
    comes round; `run_rounds`, `run_lapped`: what becomes of it.
-/
import ClusterSession.Proofs.Rpc.Verdicts

namespace ClusterSession

/-- Two sends have one number if whole rounds lie between them. -/
theorem ofNat_eq_iff_dvd {m n : Nat} (hle : m ≤ n) :
    UInt32.ofNat m = UInt32.ofNat n ↔ UInt32.size ∣ n - m := by
  rw [← UInt32.toNat_inj, UInt32.toNat_ofNat', UInt32.toNat_ofNat']
  show m % 4294967296 = n % 4294967296 ↔ 4294967296 ∣ n - m
  omega

/-- At some time, a send was not over when `2 ^ 32` later ones had started. -/
def Lapped (log : List Entry) : Prop :=
  ∃ past, past <+: log ∧ ∃ (t : Nat) (id : UInt32), Pends past t id ∧
    UInt32.size ≤ past.countP Entry.starts - (t + 1)

/-- At some time when the send was not over, neither was another one that had its number. -/
def Doubled (log : List Entry) (t : Token) : Prop :=
  ∃ past, past <+: log ∧ ∃ id t', t' ≠ t ∧ Pends past t id ∧ Pends past t' id

theorem Pends.numbered {log : List Entry} {t : Nat} {id : UInt32} (h : Pends log t id)
    (hn : Numbered log) : t < log.countP Entry.starts ∧ id = UInt32.ofNat t := by
  obtain ⟨before, frame, after, rfl, rfl, -⟩ := h
  exact ⟨hn.lt_of_mem (List.mem_append_right _ List.mem_cons_self), (hn _ _ _ _ rfl).2⟩

/-- Two sends that are not over have one number only if numbers have come round. -/
theorem Doubled.lapped {log : List Entry} {t : Token} (h : Doubled log t) (hn : Numbered log) :
    Lapped log := by
  obtain ⟨past, hprefix, id, t', hne, hp, hp'⟩ := h
  have hpast : Numbered past := by
    obtain ⟨rest, rfl⟩ := hprefix
    exact hn.append
  obtain ⟨hlt, hid⟩ := hp.numbered hpast
  obtain ⟨hlt', hid'⟩ := hp'.numbered hpast
  have hround : ∀ u v : Nat, UInt32.ofNat u = UInt32.ofNat v → u < v → UInt32.size ≤ v - u :=
    fun u v heq hlt =>
      Nat.le_of_dvd (Nat.sub_pos_of_lt hlt) ((ofNat_eq_iff_dvd (Nat.le_of_lt hlt)).1 heq)
  rcases Nat.lt_or_gt_of_ne hne with hu | hu
  · have := hround t' t (hid'.symm.trans hid) hu
    exact ⟨past, hprefix, t', id, hp', by omega⟩
  · have := hround t t' (hid.symm.trans hid') hu
    exact ⟨past, hprefix, t, id, hp, by omega⟩

/-- Numbers do not come round in a short time. -/
theorem not_lapped_of_short {log : List Entry} (h : log.length ≤ UInt32.size) : ¬Lapped log := by
  rintro ⟨past, hprefix, t, id, -, hlapped⟩
  have hcount : past.countP Entry.starts ≤ log.length :=
    Nat.le_trans List.countP_le_length hprefix.length_le
  have hpos : 0 < UInt32.size := by decide
  omega

/-- Whoever ends had started and was not over. -/
def Ordered (log : List Entry) : Prop :=
  ∀ past e rest t, log = past ++ e :: rest → e.ends t = true → ∃ id, Pends past t id

/-- A send that still waits for its frame has been told nothing, unless its number was doubled. -/
theorem doubled_of_awaits {log : List Entry} (hn : Numbered log) (ho : Ordered log) {t : Token}
    {id : UInt32} (h : Awaits log t id) {v : Except ConnectionError Response}
    (hv : verdict log t = some v) : Doubled log t := by
  obtain ⟨before, frame, after, rfl, rfl, hafter⟩ := h
  rw [verdict, hn.since_eq] at hv
  obtain ⟨first, e, rest, rfl, he, -⟩ := List.findSome?_eq_some_iff.1 hv
  have hid : frame.id = UInt32.ofNat t := (hn _ _ _ _ rfl).2
  have hs : e.settles t frame.id = false := hafter e (by simp)
  let past := before ++ .began t frame :: first
  have hlog : before ++ .began t frame :: (first ++ e :: rest) = past ++ e :: rest := by simp [past]
  rw [hlog] at hn ho ⊢
  have hpends : Pends past t frame.id :=
    Awaits.pends ⟨before, frame, first, rfl, rfl, fun x hx => hafter x (by simp [hx])⟩
  -- another send that had the number was not over until now
  have hother : ∀ t', e.ends t' = true → e.ends t = false → UInt32.ofNat t' = UInt32.ofNat t →
      Doubled (past ++ e :: rest) t := by
    intro t' hend hnot heq
    obtain ⟨id', hp'⟩ := ho past e rest t' rfl hend
    have hid' := (hp'.numbered hn.append).2
    rw [heq, ← hid] at hid'
    refine ⟨past, List.prefix_append _ _, frame.id, t', ?_, hpends, hid' ▸ hp'⟩
    rintro rfl
    rw [hend] at hnot
    cases hnot
  cases e with
  | began t' frame' =>
    simp only [Entry.verdict?] at he
    split at he
    · next heq =>
      refine ⟨past ++ [.began t' frame'], ⟨rest, by simp⟩, frame.id, t', ?_,
        since_concat.2 (.inr ⟨hpends, rfl⟩),
        since_concat.2 (.inl ⟨frame', rfl, heq.trans hid.symm⟩)⟩
      have hlt := (hpends.numbered hn.append).1
      rw [← (hn past t' frame' rest rfl).1] at hlt
      exact Nat.ne_of_gt hlt
    · cases he
  | ended t' result =>
    simp only [Entry.verdict?] at he
    split at he
    · next heq => exact hother t' (decide_eq_true rfl) hs heq
    · cases he
  | abandoned t' =>
    simp only [Entry.verdict?] at he
    split at he
    · next heq => exact hother t' (decide_eq_true rfl) hs heq
    · cases he
  | read f =>
    simp only [Entry.verdict?] at he
    split at he
    · next heq => exact absurd (heq.trans hid.symm) (of_decide_eq_false hs)
    · cases he
  | closed => cases hs
  | _ => cases he

/-! ## What callers do -/

/-- A caller does it. -/
def Incident.byCaller : Incident → Bool
  | send _ | abandon _ => true
  | _ => false

/-- A caller has done it. -/
def Entry.byCaller : Entry → Bool
  | began _ _ | refused _ | abandoned _ => true
  | _ => false

/-- As long as only callers have done anything, whoever is not over waits. -/
theorem Pends.awaits {log : List Entry} {t : Token} {id : UInt32} (h : Pends log t id)
    (hc : ∀ e ∈ log, e.byCaller = true) : Awaits log t id := by
  obtain ⟨before, frame, after, rfl, hid, hafter⟩ := h
  refine ⟨before, frame, after, rfl, hid, fun e he => ?_⟩
  have hcaller := hc e (List.mem_append_right _ (List.mem_cons_of_mem _ he))
  have hends := hafter e he
  cases e with
  | began _ _ => rfl
  | refused _ => rfl
  | abandoned _ => exact hends
  | _ => cases hcaller

namespace Line

/-- What callers do brings no message, and leaves nothing in the log but what they have done. -/
theorem run_byCaller {is : List Incident} (h : ∀ i ∈ is, i.byCaller = true) :
    (∀ e ∈ (run is).log, e.byCaller = true) ∧ (run is).inbound = [] := by
  induction is using List.reverseRecOn with
  | nil => exact ⟨fun e he => absurd he List.not_mem_nil, rfl⟩
  | append_singleton is i ih =>
    obtain ⟨hlog, hin⟩ := ih fun j hj => h j (List.mem_append_left _ hj)
    have hi := h i (List.mem_append_right _ List.mem_cons_self)
    have hadd : ∀ e : Entry, e.byCaller = true → ∀ x ∈ (run is).log ++ [e], x.byCaller = true := by
      intro e he x hx
      rcases List.mem_append.1 hx with hx | hx
      · exact hlog x hx
      · rwa [List.mem_singleton.1 hx]
    rw [run_concat]
    cases i with
    | send r =>
      simp only [step, Line.send]
      split
      · exact ⟨hadd _ rfl, hin⟩
      · exact ⟨hadd _ rfl, hin⟩
    | abandon t =>
      simp only [step, Line.abandon]
      split
      · exact ⟨hadd _ rfl, hin⟩
      · exact ⟨hlog, hin⟩
    | _ => cases hi

/-! ## A number that comes round -/

/-- The request that ends session 0. -/
def closing : Request := .unregister { session := 0 }

/-- A send that is never answered, and `n` more, each given up before the next one starts. -/
def rounds (n : Nat) : List Incident :=
  .send closing :: (List.range n).flatMap fun k => [.send closing, .abandon (k + 1)]

theorem rounds_succ (n : Nat) :
    rounds (n + 1) = rounds n ++ [.send closing] ++ [.abandon (n + 1)] := by
  simp [rounds, List.range_succ]

theorem rounds_byCaller (n : Nat) : ∀ i ∈ rounds n, i.byCaller = true := by
  intro i hi
  rcases List.mem_cons.1 hi with rfl | hi
  · rfl
  · obtain ⟨k, -, hi⟩ := List.mem_flatMap.1 hi
    rcases List.mem_pair.1 hi with rfl | rfl
    · rfl
    · rfl

/-- The first send, whose number is 0. -/
def first : Pending := { token := 0, id := 0, written := false, told := none }

/-- The connection on which only the first send is left, after that many numbers. -/
def lonely (begun : Nat) : Rpc where
  nextId := UInt32.ofNat begun
  callbacks := [(0, 0)]
  sends := [first]
  closed := false

/-- A send that starts next to the first one, and is given up, leaves it alone. -/
theorem step_round {l : Line} (h : l.Heard) {begun : Nat} (hpos : 0 < begun)
    (hlt : begun < UInt32.size) (hrpc : l.rpc = lonely begun) (hbegun : l.begun = begun) :
    let l' := (l.step (.send closing)).step (.abandon begun)
    l'.rpc = lonely (begun + 1) ∧ l'.begun = begun + 1 := by
  have hid : UInt32.ofNat begun ≠ 0 := fun he =>
    Nat.ne_of_gt hpos (eq_of_ofNat_eq (n := 0) he (Nat.zero_le _) (by rwa [Nat.zero_add]))
  let second : Pending := ⟨begun, UInt32.ofNat begun, false, none⟩
  have hsend : (l.step (.send closing)).rpc = { lonely (begun + 1) with
      callbacks := [(UInt32.ofNat begun, begun), (0, 0)], sends := [first, second] } ∧
      (l.step (.send closing)).begun = begun + 1 := by
    have hapart : l.rpc.Apart (l.begun + 1) := by
      rw [hrpc, hbegun]
      exact List.forall_mem_singleton.2 (Nat.le_trans hlt (Nat.le_add_left _ _))
    have ho : l.rpc.closed = false := by rw [hrpc]; rfl
    simp only [step, Line.send, Rpc.start_eq h.kept hapart ho]
    rw [hrpc, hbegun]
    exact ⟨rfl, rfl⟩
  have h' := step_heard h (.send closing)
  generalize l.step (.send closing) = l' at hsend h'
  obtain ⟨hrpc', hbegun'⟩ := hsend
  have hmem : second ∈ l'.rpc.sends := by
    rw [hrpc']
    exact List.mem_cons_of_mem _ List.mem_cons_self
  have hapart : l'.rpc.Apart l'.begun := by
    rw [hrpc', hbegun']
    intro p hp
    rcases List.mem_pair.1 hp with rfl | rfl
    · exact Nat.le_trans hlt (Nat.le_add_left _ _)
    · exact Nat.add_le_add_left (by decide) begun
  have hfinish : l'.rpc.finish second = lonely (begun + 1) := by
    rw [Rpc.finish_eq h'.kept hapart hmem, hrpc']
    simp [lonely, first, second, hid.symm, Nat.ne_of_lt hpos]
  have hs : l'.rpc.send? begun = some second := h'.send?_eq hmem
  show (l'.abandon begun).rpc = _ ∧ (l'.abandon begun).begun = _
  simp only [Line.abandon, Rpc.abandon, hs]
  exact ⟨hfinish, hbegun'⟩

/-- As long as no number has come round, the first send is left alone. -/
theorem run_rounds {n : Nat} (hn : n < UInt32.size) :
    (run (rounds n)).rpc = lonely (n + 1) ∧ (run (rounds n)).begun = n + 1 := by
  induction n with
  | zero => exact ⟨rfl, rfl⟩
  | succ n ih =>
    obtain ⟨hrpc, hbegun⟩ := ih (Nat.lt_of_succ_lt hn)
    rw [rounds_succ, run_concat, run_concat]
    exact step_round (run_heard _) (Nat.succ_pos n) hn hrpc hbegun

/-- A send that gets the number of the first one takes its place. -/
theorem step_lapped {l : Line} (h : l.Heard) {begun : Nat} (hround : UInt32.ofNat begun = 0)
    (hrpc : l.rpc = lonely begun) (hbegun : l.begun = begun) :
    (l.step (.send closing)).rpc = { lonely (begun + 1) with
      callbacks := [(0, begun)]
      sends := [{ first with told := some (.error .channelClosed) },
        { token := begun, id := 0, written := false, told := none }] } := by
  have ho : l.rpc.closed = false := by rw [hrpc]; rfl
  simp only [step, Line.send, Rpc.start_eq_unpark h.kept ho]
  rw [hrpc, hbegun, hround]
  rfl

/-- The first of `2 ^ 32` sends is left alone by the others. -/
theorem run_full : (run (rounds (UInt32.size - 1))).rpc = lonely UInt32.size ∧
    (run (rounds (UInt32.size - 1))).begun = UInt32.size :=
  run_rounds (by decide)

/-- The next one takes its place. -/
theorem run_lapped : (run (rounds (UInt32.size - 1) ++ [.send closing])).rpc =
    { lonely (UInt32.size + 1) with
      callbacks := [(0, UInt32.size)]
      sends := [{ first with told := some (.error .channelClosed) },
        { token := UInt32.size, id := 0, written := false, told := none }] } := by
  obtain ⟨hrpc, hbegun⟩ := run_full
  rw [run_concat]
  exact step_lapped (run_heard _) (by decide) hrpc hbegun

end Line

end ClusterSession
