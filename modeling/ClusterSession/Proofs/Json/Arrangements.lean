/-
  ClusterSession: documents with their members arranged.

  * `Value.Fits.canonical`: a document that fits does so when its members are arranged.
  * `Tidied`: members in another order, each arranged in itself; only repetitions are lost.
  * `arrange_tidied`: what arranging does to the members of an object.
-/
import ClusterSession.Proofs.Json.Documents
import Mathlib.Data.List.Perm.Basic

namespace ClusterSession.Json

/-! ## Members that are put in their places -/

theorem mem_insertMember {m : String × Value} {name : String} {v : Value}
    {ms : List (String × Value)} (h : m ∈ insertMember name v ms) : m = (name, v) ∨ m ∈ ms := by
  induction ms with
  | nil => exact .inl (List.mem_singleton.1 h)
  | cons x rest ih =>
    obtain ⟨n, w⟩ := x
    rw [insertMember] at h
    split at h
    · exact (List.mem_cons.1 h).imp_right (List.mem_cons_of_mem _)
    · split at h
      · exact List.mem_cons.1 h
      · rcases List.mem_cons.1 h with rfl | h
        · exact .inr List.mem_cons_self
        · exact (ih h).imp_right (List.mem_cons_of_mem _)

theorem mem_arrange {m : String × Value} {ms : List (String × Value)} (h : m ∈ arrange ms) :
    m ∈ ms := by
  have hfold : ∀ (ms sorted : List (String × Value)),
      m ∈ ms.foldl (fun sorted m => insertMember m.1 m.2 sorted) sorted → m ∈ ms ∨ m ∈ sorted := by
    intro ms
    induction ms with
    | nil => exact fun sorted h => .inr h
    | cons x rest ih =>
      intro sorted h
      rcases ih _ h with h | h
      · exact .inl (List.mem_cons_of_mem _ h)
      · rcases mem_insertMember h with rfl | h
        · exact .inl List.mem_cons_self
        · exact .inr h
  exact (hfold ms [] h).resolve_right List.not_mem_nil

mutual

/-- **A document that fits does so when its members are arranged.** -/
theorem Value.Fits.canonical : ∀ {v : Value} {depth : Nat}, v.Fits depth → v.canonical.Fits depth
  | .null, _, h | .bool _, _, h | .number _, _, h | .string _, _, h => h
  | .array _, 0, h | .object _, 0, h => h
  | .array _, _ + 1, h => ItemsFit.canonical h
  | .object _, _ + 1, h => membersFit_iff.2 fun _ hm =>
    membersFit_iff.1 (MembersFit.canonical h) _ (mem_arrange hm)

theorem ItemsFit.canonical : ∀ {vs : List Value} {depth : Nat}, ItemsFit depth vs →
    ItemsFit depth (canonicalItems vs)
  | [], _, _ => trivial
  | _ :: _, _, h => ⟨Value.Fits.canonical h.1, ItemsFit.canonical h.2⟩

theorem MembersFit.canonical : ∀ {ms : List (String × Value)} {depth : Nat}, MembersFit depth ms →
    MembersFit depth (canonicalMembers ms)
  | [], _, _ => trivial
  | (_, _) :: _, _, h => ⟨Value.Fits.canonical h.1, MembersFit.canonical h.2⟩

end

theorem canonicalMembers_eq_map (ms : List (String × Value)) :
    canonicalMembers ms = ms.map fun m => (m.1, m.2.canonical) := by
  induction ms with
  | nil => rfl
  | cons m ms ih => rw [canonicalMembers, ih, List.map_cons]

theorem filter_canonicalMembers (p : String → Bool) (ms : List (String × Value)) :
    (canonicalMembers ms).filter (p ·.1) = canonicalMembers (ms.filter (p ·.1)) := by
  rw [canonicalMembers_eq_map, canonicalMembers_eq_map, List.filter_map]
  rfl

theorem canonicalMembers_names (ms : List (String × Value)) :
    (canonicalMembers ms).map (·.1) = ms.map (·.1) := by
  rw [canonicalMembers_eq_map, List.map_map]
  rfl

/-! ## What arranging keeps -/

section
variable {p : String → Bool} {name : String} {v : Value} {ms : List (String × Value)}

theorem filter_member (h : p name = true) :
    ((name, v) :: ms).filter (p ·.1) = (name, v) :: ms.filter (p ·.1) :=
  List.filter_cons_of_pos h

theorem filter_other (h : p name = false) :
    ((name, v) :: ms).filter (p ·.1) = ms.filter (p ·.1) :=
  List.filter_cons_of_neg (by rw [h]; exact Bool.false_ne_true)

/-- A member with a new name is one more. -/
theorem insertMember_perm (h : name ∉ ms.map (·.1)) :
    (insertMember name v ms).Perm ((name, v) :: ms) := by
  induction ms with
  | nil => exact List.Perm.refl _
  | cons m rest ih =>
    obtain ⟨n, w⟩ := m
    obtain ⟨hn, hrest⟩ := not_or.1 (mt List.mem_cons.2 h)
    rw [insertMember, if_neg hn]
    split
    · exact List.Perm.refl _
    · exact ((ih hrest).cons _).trans (List.Perm.swap _ _ _)

/-- Other members do not mind one that is put in its place. -/
theorem filter_insertMember (h : p name = false) :
    (insertMember name v ms).filter (p ·.1) = ms.filter (p ·.1) := by
  induction ms with
  | nil => exact filter_other h
  | cons m rest ih =>
    obtain ⟨n, w⟩ := m
    rw [insertMember]
    split
    · next hn =>
      subst hn
      rw [filter_other h, filter_other h]
    · split
      · exact filter_other h
      · rw [List.filter_cons, List.filter_cons, ih]

/-- Members with names of their own are kept, in some order. -/
theorem foldl_insertMember_perm (sorted : List (String × Value))
    (h : (((sorted ++ ms).filter (p ·.1)).map (·.1)).Nodup) :
    ((ms.foldl (fun sorted m => insertMember m.1 m.2 sorted) sorted).filter (p ·.1)).Perm
      ((sorted ++ ms).filter (p ·.1)) := by
  induction ms generalizing sorted with
  | nil => rw [List.append_nil]; exact List.Perm.refl _
  | cons m rest ih =>
    obtain ⟨n, w⟩ := m
    rw [List.foldl_cons]
    -- what the new member adds to those of the wanted names
    have hstep : ((insertMember n w sorted ++ rest).filter (p ·.1)).Perm
        ((sorted ++ (n, w) :: rest).filter (p ·.1)) := by
      rw [List.filter_append, List.filter_append]
      cases hp : p n with
      | false =>
        rw [filter_insertMember hp, filter_other hp]
      | true =>
        have hnew : n ∉ sorted.map (·.1) := by
          intro hmem
          obtain ⟨m, hm, hmn⟩ := List.mem_map.1 hmem
          rw [List.filter_append, List.map_append, List.nodup_append, filter_member hp,
            List.map_cons] at h
          exact h.2.2 m.1 (List.mem_map_of_mem (List.mem_filter.2 ⟨hm, by rwa [hmn]⟩)) n
            List.mem_cons_self hmn
        rw [filter_member hp]
        refine (((insertMember_perm hnew).filter _).append_right _).trans ?_
        rw [filter_member hp]
        exact List.perm_middle.symm
    exact (ih _ (((hstep.map _).nodup_iff).2 h)).trans hstep

end

/-- The members in some other order, each arranged in itself.  Of members that share a name, nothing
    is said. -/
def Tidied (ms ms' : List (String × Value)) : Prop :=
  ∀ p : String → Bool, ((ms.filter (p ·.1)).map (·.1)).Nodup →
    (ms'.filter (p ·.1)).Perm (canonicalMembers (ms.filter (p ·.1)))

/-- **Arranging tidies the members of an object.** -/
theorem arrange_tidied (ms : List (String × Value)) :
    Tidied ms (arrange (canonicalMembers ms)) := by
  intro p hp
  rw [← filter_canonicalMembers]
  refine foldl_insertMember_perm [] ?_
  rw [List.nil_append, filter_canonicalMembers, canonicalMembers_names]
  exact hp

theorem Tidied.filter {ms ms' : List (String × Value)} (h : Tidied ms ms') (q : String → Bool) :
    Tidied (ms.filter (q ·.1)) (ms'.filter (q ·.1)) := by
  intro p hp
  rw [List.filter_filter] at hp ⊢
  rw [List.filter_filter]
  exact h (fun name => p name && q name) hp

end ClusterSession.Json
