/-
  ClusterSession: records are read as their members are written.

  * `map_commutes`: members that set parts of their own may come in any order.
  * `ofMembers_next`, `ofMembers_optional`: one member more, and one that may be left out.
  * `ofMembers_seen`: a member that is not required may count as seen.
  * `tagged_object`: the rest of a tagged object, after the tag.
-/
import ClusterSession.Wire
import ClusterSession.Proofs.Json.Agreement
import Mathlib.Data.List.Find
import Mathlib.Data.List.Pairwise

namespace ClusterSession.Json

variable {α β γ : Type} {origin : Origin}

/-! ## Documents that fit -/

section
variable {depth : Nat}

@[simp] theorem string_fits (s : String) : (Value.string s).Fits depth := by
  cases depth <;> trivial

@[simp] theorem uint64_fits (n : UInt64) : (Value.ofNat n.toNat).Fits depth :=
  number_fits_iff.2 ⟨n.toNat, n.toNat_lt_size, rfl⟩

@[simp] theorem uint32_fits (n : UInt32) : (Value.ofNat n.toNat).Fits depth := by
  have hn : n.toNat < UInt64.size := Nat.lt_trans n.toNat_lt_size (by decide)
  exact number_fits_iff.2 ⟨n.toNat, hn, rfl⟩

/-- A name of a closed set is a string. -/
@[simp] theorem nameOf_fits [DecidableEq α] (names : List (String × α)) (a : α) :
    (nameOf names a).Fits depth := by
  unfold nameOf
  split
  · exact string_fits _
  · cases depth <;> trivial

theorem optional_fits {name : String} {x : Option α} {enc : α → Value}
    (h : ∀ a, (enc a).Fits depth) : ∀ m ∈ optional name (x.map enc), m.2.Fits depth := by
  cases x with
  | none => exact fun _ hm => absurd hm List.not_mem_nil
  | some a =>
    intro m hm
    rw [List.mem_singleton.1 hm]
    exact h a

theorem object_fits {ms : List (String × Value)} (h : ∀ m ∈ ms, m.2.Fits depth) :
    (Value.object ms).Fits (depth + 1) :=
  membersFit_iff.2 h

end

/-- A member that may be left out has its name, if it is there. -/
@[simp] theorem mem_optional {name other : String} {v : Option Value} :
    other ∈ (optional name v).map (·.1) ↔ v.isSome ∧ other = name := by
  cases v <;> simp [optional]

/-! ## Members that may come in any order -/

theorem Decoder.map_eq_ok {d : Decoder β} {f : β → α} {v : Value} {a : α} :
    (d.map f).ofValue origin v = .ok a ↔ ∃ b, d.ofValue origin v = .ok b ∧ f b = a :=
  bind_eq_ok.trans <| exists_congr fun _ => and_congr_right fun _ =>
    ⟨fun h => Except.ok.inj h, fun h => congrArg Except.ok h⟩

namespace Field

instance : Std.Symm (@Commutes α) where
  symm _ _ h := fun origin v w s t hs ht a => (h origin w v t s ht hs a).symm

/-- Two members commute if what they set does. -/
@[simp] theorem map_commutes {name name' : String} {required required' : Bool} {d : Decoder β}
    {e : Decoder γ} {s : β → α → α} {t : γ → α → α} (h : ∀ b c a, s b (t c a) = t c (s b a)) :
    Commutes ⟨name, required, d.map s⟩ ⟨name', required', e.map t⟩ := by
  intro origin v w s' t' hs ht a
  obtain ⟨b, -, rfl⟩ := Decoder.map_eq_ok.1 hs
  obtain ⟨c, -, rfl⟩ := Decoder.map_eq_ok.1 ht
  exact h b c a

end Field

namespace Record

variable {r : Record α} {name : String} {seen : List String} {a : α} {ms : List (String × Value)}

theorem commutes_of_pairwise (h : r.fields.Pairwise Field.Commutes) : r.Commutes :=
  fun _ hf _ hg hne => h.forall hf hg fun he => hne (he ▸ rfl)

/-! ## One member more -/

/-- A member is put into the record. -/
theorem ofMembers_next {required : Bool} {d : Decoder β} {set : β → α → α} {v : Value} {b : β}
    (hf : r.field? name = some ⟨name, required, d.map set⟩) (hseen : name ∉ seen)
    (hv : d.ofValue origin v = .ok b) :
    r.ofMembers origin seen a ((name, v) :: ms) =
      r.ofMembers origin (name :: seen) (set b a) ms := by
  rw [ofMembers, hf]
  dsimp only
  rw [if_neg hseen, Decoder.map_eq_ok.2 ⟨b, hv, rfl⟩]
  rfl

/-- **A member that is not required may count as seen.** -/
theorem ofMembers_seen (hreq : ∀ f ∈ r.fields, f.name = name → f.required = false)
    (hms : name ∉ ms.map (·.1)) :
    r.ofMembers origin (name :: seen) a ms = r.ofMembers origin seen a ms := by
  induction ms generalizing seen a with
  | nil =>
    have hmissing : r.missing? (name :: seen) = r.missing? seen := by
      unfold missing?
      refine congrArg _ (List.find?_congr fun f hf => ?_)
      by_cases hn : f.name = name
      · rw [hreq f hf hn]
        rfl
      · rw [List.contains_cons, beq_false_of_ne hn, Bool.false_or]
    rw [ofMembers, ofMembers, finish, finish, hmissing]
  | cons m ms ih =>
    obtain ⟨n, v⟩ := m
    obtain ⟨hn, hms⟩ := not_or.1 (mt List.mem_cons.2 hms)
    cases hf : r.field? n with
    | none => rw [ofMembers_unknown hf, ofMembers_unknown hf, ih hms]
    | some f =>
      have hseen : n ∈ name :: seen ↔ n ∈ seen := by
        rw [List.mem_cons, or_iff_right (Ne.symm hn)]
      have hcomm : ∀ k, k ∈ n :: name :: seen ↔ k ∈ name :: n :: seen := fun k => by
        simp only [List.mem_cons]
        exact or_left_comm
      have hswap : ∀ b, r.ofMembers origin (n :: name :: seen) b ms =
          r.ofMembers origin (n :: seen) b ms := fun b => by
        rw [ofMembers_congr hcomm, ih hms]
      rw [ofMembers, ofMembers, hf]
      simp only [hseen, hswap]

/-- A member that may be left out is put into a record that has none. -/
theorem ofMembers_optional {required : Bool} {d : Decoder β} {set : Option β → α → α}
    {x : Option β} {enc : β → Value}
    (hf : r.field? name = some ⟨name, required, d.nullable.map set⟩)
    (hreq : ∀ f ∈ r.fields, f.name = name → f.required = false) (hseen : name ∉ seen)
    (hms : name ∉ ms.map (·.1)) (hx : ∀ b ∈ x, d.nullable.ofValue origin (enc b) = .ok (some b))
    (hnone : set none a = a) :
    r.ofMembers origin seen a (optional name (x.map enc) ++ ms) =
      r.ofMembers origin (name :: seen) (set x a) ms := by
  cases x with
  | none => rw [hnone, ofMembers_seen hreq hms]; rfl
  | some b => exact ofMembers_next hf hseen (hx b rfl)

end Record

/-! ## Tagged objects -/

theorem Variant.content_ofRecord {tag : String} {r : Record β} {f : β → α} {b : β}
    {ms : List (String × Value)} (h : r.ofMembers .aside [] r.blank ms = .ok b) :
    (Variant.ofRecord tag r f).content (.object ms) = .ok (f b) := by
  show (r.ofMembers .aside [] r.blank ms).map f = _
  rw [h]
  rfl

/-- The rest of a tagged object is what stands after the tag. -/
theorem Decoder.tagged_object {tagName tag : String} {variants : List (Variant α)} {x : Variant α}
    {ms : List (String × Value)} (hx : variant variants tag = .ok x)
    (hms : tagName ∉ ms.map (·.1)) :
    (tagged tagName variants).ofValue origin (.object ((tagName, .string tag) :: ms)) =
      x.content (.object ms) := by
  have hnone : ms.filter (decide <| ·.1 = tagName) = [] := List.filter_eq_nil_iff.2 fun m hm hn =>
    hms (of_decide_eq_true hn ▸ List.mem_map_of_mem hm)
  have hall : ms.filter (decide <| ·.1 ≠ tagName) = ms := List.filter_eq_self.2 fun m hm =>
    decide_eq_true fun hn => hms (hn ▸ List.mem_map_of_mem hm)
  have hsplit : splitTag tagName variants none ((tagName, .string tag) :: ms) = .ok (x, ms) :=
    splitTag_tag.2 ⟨tag, rfl, x, hx, splitTag_some.2 ⟨rfl, hnone, hall.symm⟩⟩
  show splitTag tagName variants none ((tagName, .string tag) :: ms) >>= _ = _
  rw [hsplit]
  rfl

end ClusterSession.Json
