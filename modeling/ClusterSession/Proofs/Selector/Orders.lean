/-
  ClusterSession: the order in which a selector hands out members.

  * `Selector.Sound`: no member occurs twice, the leader is a member, and the
    candidates are those of the strategy.
  * `Selector.Operation`: what may be done to a selector; `Sound.apply`: every
    operation keeps it sound.
  * `Selector.Later`: a selector some operations later.  As long as the generation is
    the same, so are the leader, the members and the candidates.
  * `demote_eq_append`, `head_demote_ne`: the failed candidate comes last, and is first
    only if there is no other.
-/
import ClusterSession.Cluster
import Mathlib.Data.List.Nodup
import Mathlib.Data.List.Perm.Basic

namespace ClusterSession

/-! ## Members -/

/-- What is left of a list after those that were seen are dropped. -/
theorem foldl_distinct_nodup (servers seen : List Address) (h : seen.Nodup) :
    (servers.foldl (fun seen a => if a ∈ seen then seen else seen ++ [a]) seen).Nodup := by
  induction servers generalizing seen with
  | nil => exact h
  | cons a rest ih =>
    rw [List.foldl_cons]
    split
    · exact ih _ h
    · next ha => exact ih _ (List.Nodup.append h (List.nodup_singleton a) (by simpa using ha))

theorem distinct_nodup (servers : List Address) : (distinct servers).Nodup :=
  foldl_distinct_nodup servers [] List.nodup_nil

theorem mem_others {leader a : Address} {servers : List Address} :
    a ∈ others leader servers ↔ a ∈ servers ∧ a ≠ leader := by
  simp [others]

section
variable {strategy : SelectionStrategy} {leader : Option Address} {servers : List Address}

/-- A strategy hands out no candidate twice. -/
theorem select_nodup (h : servers.Nodup) : (strategy.select leader servers).Nodup := by
  cases leader with
  | none => exact h
  | some l =>
    have ho : (others l servers).Nodup := h.filter _
    cases strategy with
    | any => exact List.nodup_cons.2 ⟨fun hl => (mem_others.1 hl).2 rfl, ho⟩
    | leader => exact List.nodup_singleton l
    | followers =>
      simp only [SelectionStrategy.select]
      split
      · exact h
      · exact ho

/-- Every candidate is a member. -/
theorem mem_of_mem_select (hl : ∀ l, leader = some l → l ∈ servers) {a : Address}
    (ha : a ∈ strategy.select leader servers) : a ∈ servers := by
  cases leader with
  | none => exact ha
  | some l =>
    cases strategy with
    | any =>
      rcases List.mem_cons.1 ha with rfl | ha
      · exact hl _ rfl
      · exact (mem_others.1 ha).1
    | leader => exact List.mem_singleton.1 ha ▸ hl _ rfl
    | followers =>
      simp only [SelectionStrategy.select] at ha
      split at ha
      · exact ha
      · exact (mem_others.1 ha).1

/-- The strategy that prefers nobody but the leader hands out every member. -/
theorem select_any_perm (h : servers.Nodup) (hl : ∀ l, leader = some l → l ∈ servers) :
    (SelectionStrategy.any.select leader servers).Perm servers := by
  refine (List.perm_ext_iff_of_nodup (select_nodup h) h).2 fun a => ⟨mem_of_mem_select hl, ?_⟩
  intro ha
  cases leader with
  | none => exact ha
  | some l =>
    by_cases he : a = l
    · exact he ▸ List.mem_cons_self
    · exact List.mem_cons_of_mem _ (mem_others.2 ⟨ha, he⟩)

end

namespace Selector

/-- The members after a report are distinct, and the leader is one of them. -/
theorem membership_sound {present : List Address} (h : present.Nodup) (leader : Option Address)
    (servers : List Address) :
    (membership present leader servers).Nodup ∧
      ∀ l, leader = some l → l ∈ membership present leader servers := by
  have hk : (if distinct servers = [] then present else distinct servers).Nodup := by
    split
    · exact h
    · exact distinct_nodup servers
  unfold membership
  dsimp only
  generalize (if distinct servers = [] then present else distinct servers) = kept at hk
  cases leader with
  | none => exact ⟨hk, nofun⟩
  | some l =>
    dsimp only
    split
    · next hl => exact ⟨hk, fun _ he => Option.some.inj he ▸ hl⟩
    · next hl =>
      exact ⟨List.nodup_cons.2 ⟨hl, hk⟩, fun _ he => Option.some.inj he ▸ List.mem_cons_self⟩

/-! ## Sound selectors -/

/-- No member occurs twice, the leader is a member, and the candidates are those of the
    strategy. -/
structure Sound (s : Selector) : Prop where
  nodup : s.servers.Nodup
  leader : ∀ l, s.leader = some l → l ∈ s.servers
  candidates : s.candidates = s.strategy.select s.leader s.servers

/-- What may be done to a selector. -/
inductive Operation where
  | reset (leader : Option Address) (servers : List Address)
  | clearLeader
  | next
  | rewind

/-- The operation orders the candidates anew. -/
def Operation.reorders : Operation → Bool
  | reset _ _ | clearLeader => true
  | next | rewind => false

/-- What comes of an operation. -/
def apply (s : Selector) : Operation → Selector
  | .reset leader servers => s.reset leader servers
  | .clearLeader => s.clearLeader
  | .next => s.next.2
  | .rewind => s.rewind

theorem ofServers_sound (strategy : SelectionStrategy) (servers : List Address) :
    (ofServers strategy servers).Sound :=
  ⟨distinct_nodup servers, nofun, rfl⟩

/-- Handing out candidates changes nothing but the position. -/
theorem next_eq (s : Selector) : ∃ position, s.next.2 = { s with position } := by
  unfold next
  split
  · exact ⟨_, rfl⟩
  · exact ⟨_, rfl⟩

namespace Sound
variable {s : Selector}

theorem position (h : s.Sound) (position : Nat) : Sound { s with position } :=
  ⟨h.nodup, h.leader, h.candidates⟩

theorem reset (h : s.Sound) (leader : Option Address) (servers : List Address) :
    (s.reset leader servers).Sound :=
  ⟨(membership_sound h.nodup leader servers).1, (membership_sound h.nodup leader servers).2, rfl⟩

theorem clearLeader (h : s.Sound) : s.clearLeader.Sound := ⟨h.nodup, nofun, rfl⟩

/-- **Every operation keeps a selector sound.** -/
theorem apply (h : s.Sound) (o : Operation) : (s.apply o).Sound := by
  cases o with
  | reset leader servers => exact h.reset leader servers
  | clearLeader => exact h.clearLeader
  | next =>
    obtain ⟨position, he⟩ := s.next_eq
    exact (congrArg Sound he).mpr (h.position position)
  | rewind => exact h.position 0

theorem candidates_nodup (h : s.Sound) : s.candidates.Nodup :=
  h.candidates ▸ select_nodup h.nodup

/-- Without a leader, every member is a candidate, in the order of the members. -/
theorem candidates_of_leaderless (h : s.Sound) (hl : s.leader = none) :
    s.candidates = s.servers := by
  rw [h.candidates, hl]; rfl

theorem candidates_perm (h : s.Sound) (hs : s.strategy = .any) :
    s.candidates.Perm s.servers := by
  rw [h.candidates, hs]
  exact select_any_perm h.nodup h.leader

end Sound

/-! ## Later selectors -/

/-- A selector some operations later.  What it orders the candidates by has not changed as long as
    the generation is the same. -/
structure Later (s s' : Selector) : Prop where
  strategy : s'.strategy = s.strategy
  generation : s.generation ≤ s'.generation
  same : s'.generation = s.generation →
    s'.leader = s.leader ∧ s'.servers = s.servers ∧ s'.candidates = s.candidates

namespace Later
variable {s s' : Selector}

theorem position (s : Selector) (position : Nat) : Later s { s with position } :=
  ⟨rfl, Nat.le_refl _, fun _ => ⟨rfl, rfl, rfl⟩⟩

/-- The candidates are ordered anew in a new generation. -/
theorem of_generation (hs : s'.strategy = s.strategy) (hg : s'.generation = s.generation + 1) :
    Later s s' :=
  ⟨hs, by omega, fun he => absurd he (by omega)⟩

theorem apply (s : Selector) (o : Operation) : Later s (s.apply o) := by
  cases o with
  | reset leader servers => exact of_generation rfl rfl
  | clearLeader => exact of_generation rfl rfl
  | next =>
    obtain ⟨position, he⟩ := s.next_eq
    exact (congrArg (Later s) he).mpr (.position s position)
  | rewind => exact .position s 0

end Later

/-- From the start, every candidate is handed out. -/
theorem drain_rewind (s : Selector) : (s.rewind.drain).1 = s.candidates := List.drop_zero

end Selector

/-! ## The failed candidate -/

section
variable {m a : Address} {failed : Option Address} {candidates : List Address}

theorem mem_demote : a ∈ demote failed candidates ↔ a ∈ candidates := by
  unfold demote
  split
  · next f =>
    split
    · next hf =>
      rw [List.mem_append, List.mem_singleton]
      constructor
      · rintro (ha | rfl)
        · exact List.mem_of_mem_erase ha
        · exact hf
      · intro ha
        by_cases he : a = f
        · exact .inr he
        · exact .inl ((List.mem_erase_of_ne he).2 ha)
    · exact Iff.rfl
  · exact Iff.rfl

/-- The failed candidate comes last. -/
theorem demote_eq_append (h : candidates.Nodup) (hm : m ∈ candidates) :
    ∃ before, demote (some m) candidates = before ++ [m] ∧ m ∉ before := by
  refine ⟨candidates.erase m, if_pos hm, ?_⟩
  exact fun he => (h.mem_erase_iff.1 he).1 rfl

/-- Everybody else comes before the failed candidate. -/
theorem mem_before_of_demote (h : candidates.Nodup) {before after : List Address}
    (hd : demote (some m) candidates = before ++ m :: after) :
    ∀ b ∈ candidates, b ≠ m → b ∈ before := by
  have hm : m ∈ candidates := mem_demote.1 (hd ▸ List.mem_append_right _ List.mem_cons_self)
  obtain ⟨others, he, hnot⟩ := demote_eq_append h hm
  rw [he] at hd
  intro b hb hne
  have hb' : b ∈ others ++ [m] := he ▸ mem_demote.2 hb
  rcases List.append_eq_append_iff.1 hd with ⟨mid, hbefore, hmid⟩ | ⟨mid, hothers, hmid⟩
  · rcases List.mem_append.1 hb' with hb' | hb'
    · exact hbefore ▸ List.mem_append_left _ hb'
    · exact absurd (List.mem_singleton.1 hb') hne
  · -- otherwise the failed candidate would be among the others
    cases mid with
    | nil =>
      rw [List.append_nil] at hothers
      exact hothers ▸ (List.mem_append.1 hb').resolve_right fun hs => hne (List.mem_singleton.1 hs)
    | cons x rest =>
      rw [List.cons_append, List.cons.injEq] at hmid
      exact absurd (hothers ▸ hmid.1 ▸ List.mem_append_right _ List.mem_cons_self) hnot

theorem head?_demote_isSome (failed : Option Address) (h : candidates ≠ []) :
    ∃ a, (demote failed candidates).head? = some a := by
  cases hd : demote failed candidates with
  | nil =>
    obtain ⟨a, ha⟩ := List.exists_mem_of_ne_nil _ h
    exact absurd (hd ▸ mem_demote.2 ha) (by simp)
  | cons a rest => exact ⟨a, rfl⟩

/-- Another failed candidate leaves the first where it is. -/
theorem head?_demote_of_ne {rest : List Address} (h : m ≠ a) :
    (demote (some m) (a :: rest)).head? = some a := by
  unfold demote
  dsimp only
  split
  · rw [List.erase_cons_tail (by simpa using h.symm)]
    rfl
  · rfl

/-- The second comes first after the first has failed. -/
theorem head?_demote_self {rest : List Address} :
    (demote (some a) (a :: m :: rest)).head? = some m := by
  simp [demote]

/-- One of the first two comes first. -/
theorem head?_demote_mem (h : (demote failed candidates).head? = some a) :
    a ∈ candidates.take 2 := by
  cases failed with
  | none =>
    cases candidates with
    | nil => cases h
    | cons c rest => exact Option.some.inj h ▸ List.mem_cons_self
  | some f =>
    rcases candidates with _ | ⟨c, _ | ⟨d, rest⟩⟩
    · cases h
    · exact mem_demote.1 (List.mem_of_head? h)
    · by_cases hf : f = c
      · subst hf
        rw [head?_demote_self] at h
        simp [Option.some.inj h]
      · rw [head?_demote_of_ne hf] at h
        simp [Option.some.inj h]

/-- **The failed candidate comes first only if there is no other.** -/
theorem head_demote_ne (h : candidates.Nodup) (ho : ∃ b ∈ candidates, b ≠ m) :
    ∃ b rest, demote (some m) candidates = b :: rest ∧ b ≠ m := by
  obtain ⟨o, ho, hne⟩ := ho
  cases hd : demote (some m) candidates with
  | nil => exact absurd (hd ▸ mem_demote.2 ho) (by simp)
  | cons b rest =>
    refine ⟨b, rest, rfl, ?_⟩
    rintro rfl
    have hbefore : o ∈ ([] : List Address) := mem_before_of_demote h hd o ho hne
    cases hbefore

end

end ClusterSession
