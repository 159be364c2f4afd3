/-
  ClusterSession: a selector and all that was done to it.

  * `Selector.run`: one operation after another; `Operation.drawn` is how often a
    candidate has been asked for since the selector last started over.
  * `Selector.Faithful`: what the members, the leader, the candidates, the generation
    and the next candidate are after some operations.
  * `draw_rewind`: asking again and again hands out every candidate once.
  * `candidates_represented`: this holds after any operations.
-/
import ClusterSession.Proofs.Selector.Orders

namespace ClusterSession

section
variable {strategy : SelectionStrategy} {leader : Option Address} {servers : List Address}

/-- A strategy finds a candidate wherever there is a member. -/
theorem select_eq_nil_iff (hl : ∀ l, leader = some l → l ∈ servers) :
    strategy.select leader servers = [] ↔ servers = [] := by
  cases leader with
  | none => exact Iff.rfl
  | some l =>
    have hne : servers ≠ [] := List.ne_nil_of_mem (hl l rfl)
    refine iff_of_false ?_ hne
    cases strategy with
    | any => exact List.cons_ne_nil _ _
    | leader => exact List.cons_ne_nil _ _
    | followers =>
      simp only [SelectionStrategy.select]
      split
      · exact hne
      · next ho => exact ho

/-- A report leaves no selector without members that had some. -/
theorem membership_ne_nil {present : List Address} (h : present ≠ []) (leader : Option Address)
    (servers : List Address) : Selector.membership present leader servers ≠ [] := by
  have hk : (if distinct servers = [] then present else distinct servers) ≠ [] := by
    split
    · exact h
    · next hd => exact hd
  unfold Selector.membership
  dsimp only
  generalize (if distinct servers = [] then present else distinct servers) = kept at hk
  cases leader with
  | none => exact hk
  | some l =>
    dsimp only
    split
    · exact hk
    · exact List.cons_ne_nil _ _

end

namespace Selector

/-! ## Operations -/

namespace Operation

/-- One more candidate has been asked for, or the selector starts over. -/
def tally (n : Nat) : Operation → Nat
  | next => n + 1
  | reset _ _ | clearLeader | rewind => 0

/-- How often a candidate has been asked for since the selector last started over. -/
def drawn (os : List Operation) : Nat := os.foldl tally 0

end Operation

/-- One operation after another. -/
def run (s : Selector) (os : List Operation) : Selector := os.foldl apply s

/-- Asks for a candidate `n` times. -/
def draw : (n : Nat) → Selector → List (Option Address)
  | 0, _ => []
  | n + 1, s => s.next.1 :: draw n s.next.2

section
variable (s : Selector)

theorem next_fst : s.next.1 = s.candidates[s.position]? := by
  unfold next
  split
  · next h => exact h.symm
  · next h => exact h.symm

theorem next_position :
    s.next.2.position = min (s.position + 1) (max s.position s.candidates.length) := by
  unfold next
  split
  · next h =>
    obtain ⟨hlt, -⟩ := List.getElem?_eq_some_iff.1 h
    simp only
    omega
  · next h =>
    have hle := List.getElem?_eq_none_iff.1 h
    simp only
    omega

theorem next_candidates : s.next.2.candidates = s.candidates := by
  obtain ⟨position, he⟩ := s.next_eq
  rw [he]

/-- What is left is handed out in order, and nothing after it. -/
theorem draw_eq (n : Nat) (h : s.position ≤ s.candidates.length) :
    s.draw (s.candidates.length - s.position + n) =
      (s.candidates.drop s.position).map some ++ List.replicate n none := by
  generalize hk : s.candidates.length - s.position = k
  induction k generalizing s with
  | zero =>
    have hp : s.position = s.candidates.length := by omega
    rw [hp, List.drop_length, List.map_nil, List.nil_append, Nat.zero_add]
    clear hk h
    induction n with
    | zero => rfl
    | succ n ih =>
      have hs : s.next = (none, s) := by
        unfold next
        rw [hp, List.getElem?_eq_none (Nat.le_refl _)]
      rw [draw, hs, ih, List.replicate_succ]
  | succ k ih =>
    have hlt : s.position < s.candidates.length := by omega
    have hpos : s.next.2.position = s.position + 1 := by
      rw [next_position]
      omega
    have hrest := ih s.next.2 (by rw [hpos, next_candidates]; omega)
      (by rw [hpos, next_candidates]; omega)
    rw [Nat.add_right_comm, draw, next_fst, hrest, next_candidates, hpos,
      List.drop_eq_getElem_cons hlt, List.getElem?_eq_getElem hlt]
    rfl

/-- **From the start, every candidate is handed out once, in order, and then none.** -/
theorem draw_rewind (n : Nat) :
    s.rewind.draw (s.candidates.length + n) =
      s.candidates.map some ++ List.replicate n none :=
  s.rewind.draw_eq n (Nat.zero_le _)

end

/-! ## What the operations leave -/

/-- What a selector shows after some operations. -/
structure Faithful (s : Selector) (os : List Operation) : Prop where
  /-- No member occurs twice. -/
  servers : s.servers.Nodup
  /-- The leader is a member. -/
  leader : ∀ l, s.leader = some l → l ∈ s.servers
  /-- No candidate occurs twice. -/
  candidates : s.candidates.Nodup
  /-- The candidates are members. -/
  members : ∀ a ∈ s.candidates, a ∈ s.servers
  /-- There is a candidate when there is a member. -/
  empty : s.candidates = [] ↔ s.servers = []
  /-- Without a leader, the candidates are the members. -/
  leaderless : s.leader = none → s.candidates = s.servers
  /-- The leader comes before the other members. -/
  first : ∀ l, s.leader = some l → s.strategy = .any →
    s.candidates = l :: s.servers.filter (· ≠ l)
  /-- The leader alone is a candidate. -/
  only : ∀ l, s.leader = some l → s.strategy = .leader → s.candidates = [l]
  /-- The other members are candidates, or all if there are no others. -/
  others : ∀ l, s.leader = some l → s.strategy = .followers →
    s.candidates = if s.servers.filter (· ≠ l) = [] then s.servers else s.servers.filter (· ≠ l)
  /-- The generation counts how often the candidates were ordered anew. -/
  generation : s.generation = 1 + os.countP Operation.reorders
  /-- The candidates are handed out one after another, from the start after each new start. -/
  next : s.next.1 = s.candidates[Operation.drawn os]?

/-- The generation and the position are as the operations say. -/
structure Counted (s : Selector) (os : List Operation) : Prop where
  generation : s.generation = 1 + os.countP Operation.reorders
  position : s.position = min (Operation.drawn os) s.candidates.length

theorem ofServers_counted (strategy : SelectionStrategy) (servers : List Address) :
    (ofServers strategy servers).Counted [] where
  generation := rfl
  position := (Nat.zero_min _).symm

/-- **Every operation counts.** -/
theorem Counted.apply {s : Selector} {os : List Operation} (h : s.Counted os) (o : Operation) :
    (s.apply o).Counted (os ++ [o]) := by
  have hcount : 1 + (os ++ [o]).countP Operation.reorders =
      s.generation + if o.reorders then 1 else 0 := by
    rw [List.countP_append, List.countP_singleton, h.generation, Nat.add_assoc]
  have hdrawn : Operation.drawn (os ++ [o]) = Operation.tally (Operation.drawn os) o :=
    List.foldl_concat _ _ _ _
  constructor
  · rw [hcount]
    cases o with
    | reset leader servers => rfl
    | clearLeader => rfl
    | next =>
      show s.next.2.generation = s.generation
      obtain ⟨position, he⟩ := s.next_eq
      rw [he]
    | rewind => rfl
  · rw [hdrawn]
    cases o with
    | reset leader servers => exact (Nat.zero_min _).symm
    | clearLeader => exact (Nat.zero_min _).symm
    | next =>
      show s.next.2.position = min (Operation.drawn os + 1) s.next.2.candidates.length
      have hp := h.position
      rw [next_position, next_candidates]
      omega
    | rewind => exact (Nat.zero_min _).symm

theorem run_counted {s : Selector} {before : List Operation} (h : s.Counted before)
    (os : List Operation) : (s.run os).Counted (before ++ os) := by
  induction os generalizing s before with
  | nil => exact (List.append_nil before).symm ▸ h
  | cons o rest ih =>
    have hr := ih (h.apply o)
    rwa [List.append_assoc, List.singleton_append] at hr

theorem run_sound {s : Selector} (h : s.Sound) (os : List Operation) : (s.run os).Sound := by
  induction os generalizing s with
  | nil => exact h
  | cons o rest ih => exact ih (h.apply o)

theorem run_strategy (s : Selector) (os : List Operation) : (s.run os).strategy = s.strategy := by
  induction os generalizing s with
  | nil => rfl
  | cons o rest ih => exact (ih (s.apply o)).trans (Later.apply s o).strategy

/-- No operation takes the last member away. -/
theorem apply_servers_ne_nil {s : Selector} (h : s.servers ≠ []) (o : Operation) :
    (s.apply o).servers ≠ [] := by
  cases o with
  | reset leader servers => exact membership_ne_nil h leader servers
  | clearLeader => exact h
  | next =>
    obtain ⟨position, he⟩ := s.next_eq
    exact (congrArg Selector.servers he).trans_ne h
  | rewind => exact h

theorem run_servers_ne_nil {s : Selector} (h : s.servers ≠ []) (os : List Operation) :
    (s.run os).servers ≠ [] := by
  induction os generalizing s with
  | nil => exact h
  | cons o rest ih => exact ih (apply_servers_ne_nil h o)

theorem Sound.faithful {s : Selector} {os : List Operation} (h : s.Sound) (hc : s.Counted os) :
    s.Faithful os where
  servers := h.nodup
  leader := h.leader
  candidates := h.candidates_nodup
  members a ha := mem_of_mem_select h.leader (h.candidates ▸ ha)
  empty := by
    rw [h.candidates]
    exact select_eq_nil_iff h.leader
  leaderless := h.candidates_of_leaderless
  first l hl hs := by rw [h.candidates, hl, hs]; rfl
  only l hl hs := by rw [h.candidates, hl, hs]; rfl
  others l hl hs := by rw [h.candidates, hl, hs]; rfl
  generation := hc.generation
  next := by
    rw [next_fst, hc.position]
    rcases Nat.lt_or_ge (Operation.drawn os) s.candidates.length with hlt | hge
    · rw [Nat.min_eq_left (Nat.le_of_lt hlt)]
    · rw [Nat.min_eq_right hge, List.getElem?_eq_none (Nat.le_refl _), List.getElem?_eq_none hge]

/-- **A selector after any operations.**  Whatever its strategy and its first members, what it shows
    is what the operations have left; a selector that has members keeps some, all of them when the
    leader is forgotten; and from the start it hands out every candidate once, in order, and then
    none. -/
theorem candidates_represented (strategy : SelectionStrategy) (servers : List Address)
    (os : List Operation) :
    let s := (ofServers strategy servers).run os
    s.strategy = strategy ∧ s.Faithful os ∧
      (s.servers ≠ [] → ∀ later, (s.run later).servers ≠ []) ∧
      s.clearLeader.servers = s.servers ∧
      ∀ n, s.rewind.draw (s.candidates.length + n) =
        s.candidates.map some ++ List.replicate n none := by
  intro s
  have hsound : s.Sound := run_sound (ofServers_sound strategy servers) os
  have hcounted : s.Counted os := run_counted (ofServers_counted strategy servers) os
  refine ⟨run_strategy _ os, hsound.faithful hcounted, ?_, rfl, s.draw_rewind⟩
  intro h later
  exact run_servers_ne_nil h later

/-- A leader that is not among the reported members is put in front of them. -/
example : ((ofServers .any [⟨"a", 1⟩, ⟨"a", 1⟩]).run
    [.reset (some ⟨"b", 1⟩) [⟨"c", 1⟩], .next, .next, .next]).next = (none,
      { strategy := .any, leader := some ⟨"b", 1⟩, servers := [⟨"b", 1⟩, ⟨"c", 1⟩]
        candidates := [⟨"b", 1⟩, ⟨"c", 1⟩], position := 2, generation := 2 }) := by decide

end Selector

end ClusterSession
