/-
  ClusterSession: what a log tells.

  * `Lately`: something has been, and nothing of another kind since.
  * `lately_concat`: what has been lately, when one more thing has been.
  * `first_or_none`: what comes first of a kind.
-/
import Mathlib.Data.List.Induction

namespace ClusterSession

/-- Something of one kind has been, and nothing of the other kind since. -/
def Lately {α : Type} (q r : α → Prop) (log : List α) : Prop :=
  ∃ before e after, log = before ++ e :: after ∧ q e ∧ ∀ d ∈ after, ¬r d

section
variable {α : Type} {q r : α → Prop} {log : List α} {e : α}

theorem not_lately_nil : ¬Lately q r [] := by
  rintro ⟨before, e, after, he, -⟩
  exact List.append_ne_nil_of_right_ne_nil _ (List.cons_ne_nil _ _) he.symm

/-- Where an entry of a longer log stands. -/
theorem concat_split {before after : List α} {x : α} (h : log ++ [e] = before ++ x :: after) :
    (log = before ∧ e = x ∧ after = []) ∨
      ∃ rest, log = before ++ x :: rest ∧ after = rest ++ [e] := by
  rcases List.eq_nil_or_concat after with rfl | ⟨rest, y, rfl⟩
  · obtain ⟨hlog, hx⟩ := List.append_inj' h rfl
    exact .inl ⟨hlog, List.singleton_inj.1 hx, rfl⟩
  · rw [List.concat_eq_append] at h ⊢
    rw [← List.cons_append, ← List.append_assoc] at h
    obtain ⟨hlog, hy⟩ := List.append_inj' h rfl
    exact .inr ⟨rest, hlog, by rw [List.singleton_inj.1 hy]⟩

/-- **What has been lately, when one more thing has been.** -/
theorem lately_concat : Lately q r (log ++ [e]) ↔ q e ∨ Lately q r log ∧ ¬r e := by
  constructor
  · rintro ⟨before, x, after, h, hx, hafter⟩
    rcases concat_split h with ⟨-, rfl, -⟩ | ⟨rest, hlog, rfl⟩
    · exact .inl hx
    · exact .inr ⟨⟨before, x, rest, hlog, hx, fun d hd => hafter d (List.mem_append_left _ hd)⟩,
        hafter e (List.mem_append_right _ List.mem_cons_self)⟩
  · rintro (he | ⟨⟨before, x, after, rfl, hx, hafter⟩, he⟩)
    · exact ⟨log, e, [], rfl, he, nofun⟩
    · refine ⟨before, x, after ++ [e], by simp, hx, fun d hd => ?_⟩
      rcases List.mem_append.1 hd with hd | hd
      · exact hafter d hd
      · rw [List.mem_singleton.1 hd]
        exact he

/-- What comes first of a kind, if anything does. -/
theorem first_or_none (P : α → Prop) (log : List α) :
    (∀ d ∈ log, ¬P d) ∨
      ∃ quiet d rest, log = quiet ++ d :: rest ∧ P d ∧ ∀ x ∈ quiet, ¬P x := by
  induction log with
  | nil => exact .inl nofun
  | cons e log ih =>
    by_cases he : P e
    · exact .inr ⟨[], e, log, rfl, he, nofun⟩
    · rcases ih with hnone | ⟨quiet, d, rest, rfl, hd, hquiet⟩
      · exact .inl fun d hd => (List.mem_cons.1 hd).elim (fun h => h ▸ he) (hnone d)
      · exact .inr ⟨e :: quiet, d, rest, rfl, hd,
          fun x hx => (List.mem_cons.1 hx).elim (fun h => h ▸ he) (hquiet x)⟩

/-- What has been lately is the last thing of either kind. -/
theorem Lately.last {before quiet : List α} {m : α}
    (h : Lately q r (before ++ m :: quiet)) (hqr : ∀ e, q e → r e) (hm : r m)
    (hquiet : ∀ d ∈ quiet, ¬r d) : q m := by
  induction quiet using List.reverseRecOn with
  | nil => exact (lately_concat.1 h).resolve_right fun hn => hn.2 hm
  | append_singleton quiet d ih =>
    rw [← List.cons_append, ← List.append_assoc, lately_concat] at h
    rcases h with hd | ⟨hlately, -⟩
    · exact absurd (hqr d hd) (hquiet d (by simp))
    · exact ih hlately fun x hx => hquiet x (List.mem_append_left _ hx)

/-- What a log tells by another name of its entries. -/
theorem Lately.map {β : Type} {f : β → α} {log : List β}
    (h : Lately (fun d => q (f d)) (fun d => r (f d)) log) : Lately q r (log.map f) := by
  obtain ⟨before, e, after, rfl, he, hafter⟩ := h
  refine ⟨before.map f, f e, after.map f, by simp, he, fun d hd => ?_⟩
  obtain ⟨x, hx, rfl⟩ := List.mem_map.1 hd
  exact hafter x hx

/-- What a longer log tells. -/
theorem filterMap_concat {β : Type} (f : α → Option β) (log : List α) (e : α) :
    (log ++ [e]).filterMap f = log.filterMap f ++ (f e).toList := by
  rw [List.filterMap_append]
  cases h : f e <;> simp [h]

end

end ClusterSession
