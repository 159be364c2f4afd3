/-
  ClusterSession: decoders do not mind how members are arranged.

  * `Decoder.Steady`: what a decoder makes of a document it makes of the document with its
    members arranged.
  * `Record.Steady`: the members of a record may come in any order.
  * `Record.ofMembers_tidied`: what a record reads from members it reads from them in
    another order.
  * `splitTag_none`: the tag of an object, and the other members.
  * `tagged_steady` and the like: every way to build a decoder keeps it steady.
-/
import ClusterSession.Json.Decoder
import ClusterSession.Proofs.Json.Arrangements
import Mathlib.Data.List.Nodup

namespace ClusterSession.Json

variable {α β : Type}

theorem bind_eq_ok {ε : Type} {x : Except ε α} {f : α → Except ε β} {b : β} :
    x >>= f = .ok b ↔ ∃ a, x = .ok a ∧ f a = .ok b := by
  cases x with
  | ok a =>
    constructor
    · exact fun h => ⟨a, rfl, h⟩
    · rintro ⟨a', ha, h⟩
      cases ha
      exact h
  | error e =>
    constructor
    · exact fun h => by cases h
    · rintro ⟨a, ha, -⟩
      cases ha

theorem unfit_eq_ok {x : Except Mismatch α} {a : α} : unfit x = .ok a ↔ x = .ok a := by
  cases x with
  | ok b => rw [unfit, Except.ok.injEq, Except.ok.injEq]
  | error m => exact iff_of_false nofun nofun

namespace Decoder

/-- The decoder makes the same of a document when its members have been arranged. -/
def Steady (d : Decoder α) : Prop :=
  ∀ origin v a, d.ofValue origin v = .ok a → d.ofValue origin v.canonical = .ok a

section
variable {d : Decoder α}

@[simp] theorem refine_steady (h : d.Steady) (f : α → Except Mismatch β) : (d.refine f).Steady := by
  intro origin v b hb
  obtain ⟨a, ha, hf⟩ := bind_eq_ok.1 hb
  exact bind_eq_ok.2 ⟨a, h origin v a ha, hf⟩

@[simp] theorem map_steady (h : d.Steady) (f : α → β) : (d.map f).Steady := refine_steady h _

@[simp] theorem text_steady : text.Steady := by
  intro origin v s h
  cases v with
  | string _ => exact h
  | _ => cases h

@[simp] theorem natural_steady (bound : Nat) : (natural bound).Steady := by
  intro origin v n h
  cases v with
  | number _ => exact h
  | _ => cases h

@[simp] theorem uint64_steady : uint64.Steady := map_steady (natural_steady _) _

@[simp] theorem uint32_steady : uint32.Steady := map_steady (natural_steady _) _

/-- A value that is not `null` is read as such. -/
theorem nullable_eq_ok {origin : Origin} {v : Value} (hv : v ≠ .null) {x : Option α} :
    d.nullable.ofValue origin v = .ok x ↔ ∃ a, d.ofValue origin v = .ok a ∧ x = some a := by
  have hmap : d.nullable.ofValue origin v = (d.ofValue origin v).map some := by
    cases v with
    | null => exact absurd rfl hv
    | _ => rfl
  rw [hmap]
  cases d.ofValue origin v with
  | ok a => simp [Except.map, eq_comm]
  | error e => simp [Except.map]

@[simp] theorem nullable_steady (h : d.Steady) : d.nullable.Steady := by
  intro origin v x hx
  by_cases hv : v = .null
  · subst hv
    exact hx
  · have hc : v.canonical ≠ .null := by
      cases v with
      | null => exact absurd rfl hv
      | _ => rintro ⟨⟩
    obtain ⟨a, ha, rfl⟩ := (nullable_eq_ok hv).1 hx
    exact (nullable_eq_ok hc).2 ⟨a, h origin v a ha, rfl⟩

@[simp] theorem list_steady (h : d.Steady) : d.list.Steady := by
  intro origin v as ha
  cases v with
  | array vs =>
    show (canonicalItems vs).mapM (d.ofValue origin) = .ok as
    replace ha : vs.mapM (d.ofValue origin) = .ok as := ha
    induction vs generalizing as with
    | nil => exact ha
    | cons v vs ih =>
      rw [List.mapM_cons] at ha
      obtain ⟨a, hv, hrest⟩ := bind_eq_ok.1 ha
      obtain ⟨as', hvs, has⟩ := bind_eq_ok.1 hrest
      rw [canonicalItems, List.mapM_cons]
      exact bind_eq_ok.2 ⟨a, h origin v a hv, bind_eq_ok.2 ⟨as', ih as' hvs, has⟩⟩
  | _ => cases ha

/-- What says nothing says nothing when it has been arranged. -/
theorem saysNothing_canonical {origin : Origin} {v : Value} (h : saysNothing origin v = true) :
    saysNothing origin v.canonical = true := by
  cases v with
  | null => exact h
  | object ms =>
    cases ms with
    | nil => exact h
    | cons m ms => cases origin <;> cases h
  | _ => cases origin <;> cases h

@[simp] theorem name_steady (names : List (String × α)) : (name names).Steady := by
  intro origin v a h
  cases v with
  | string s => exact h
  | object ms =>
    match ms, h with
    | [(n, v)], h =>
      obtain ⟨b, hb, hv⟩ := bind_eq_ok.1 h
      refine bind_eq_ok.2 ⟨b, hb, ?_⟩
      split at hv
      · next hs =>
        rw [if_pos (saysNothing_canonical hs)]
        exact hv
      · cases hv
    | [], h => cases h
    | _ :: _ :: _, h => cases h
  | _ => cases h

end

end Decoder

/-! ## Records -/

/-- It does not matter which of the two members is read first. -/
def Field.Commutes (f g : Field α) : Prop :=
  ∀ origin v w s t, f.setter.ofValue origin v = .ok s → g.setter.ofValue origin w = .ok t →
    ∀ a, s (t a) = t (s a)

namespace Record

/-- It does not matter which of two members is read first. -/
def Commutes (r : Record α) : Prop :=
  ∀ f ∈ r.fields, ∀ g ∈ r.fields, f.name ≠ g.name → f.Commutes g

/-- The members of the record may come in any order, and each may be arranged. -/
structure Steady (r : Record α) : Prop where
  commutes : r.Commutes
  fields : ∀ f ∈ r.fields, f.setter.Steady

/-- The record has a member of that name. -/
def knows (r : Record α) (name : String) : Bool := (r.field? name).isSome

section
variable {r : Record α} {origin : Origin}

theorem mem_of_field? {name : String} {f : Field α} (h : r.field? name = some f) :
    f ∈ r.fields ∧ f.name = name :=
  ⟨List.mem_of_find?_eq_some h, by simpa using List.find?_some h⟩

theorem knows_of_field? {name : String} {f : Field α} (h : r.field? name = some f) :
    r.knows name = true := by
  rw [knows, h]
  rfl

theorem not_knows_of_field? {name : String} (h : r.field? name = none) : r.knows name = false := by
  rw [knows, h]
  rfl

theorem ofMembers_unknown {name : String} (h : r.field? name = none) (seen : List String) (a : α)
    (v : Value) (ms : List (String × Value)) :
    r.ofMembers origin seen a ((name, v) :: ms) = r.ofMembers origin seen a ms := by
  rw [ofMembers, h]

/-- A member that the record knows is read, unless its name has been seen. -/
theorem ofMembers_known {name : String} {f : Field α} (h : r.field? name = some f)
    {seen : List String} {a b : α} {v : Value} {ms : List (String × Value)} :
    r.ofMembers origin seen a ((name, v) :: ms) = .ok b ↔
      name ∉ seen ∧ ∃ set, f.setter.ofValue origin v = .ok set ∧
        r.ofMembers origin (name :: seen) (set a) ms = .ok b := by
  rw [ofMembers, h]
  dsimp only
  split
  · next hs =>
    refine iff_of_false (fun he => ?_) fun hn => hn.1 hs
    cases he
  · next hs => exact bind_eq_ok.trans (and_iff_right hs).symm

/-- Only the known members count. -/
theorem ofMembers_filter (seen : List String) (a : α) (ms : List (String × Value)) :
    r.ofMembers origin seen a (ms.filter (r.knows ·.1)) = r.ofMembers origin seen a ms := by
  induction ms generalizing seen a with
  | nil => rfl
  | cons m ms ih =>
    obtain ⟨name, v⟩ := m
    cases hf : r.field? name with
    | none =>
      rw [filter_other (not_knows_of_field? hf), ofMembers_unknown hf, ih]
    | some f =>
      rw [filter_member (knows_of_field? hf), ofMembers, ofMembers, hf]
      simp only [ih]

theorem missing?_congr {seen seen' : List String} (h : ∀ n, n ∈ seen ↔ n ∈ seen') :
    r.missing? seen = r.missing? seen' := by
  have hc : ∀ n, seen.contains n = seen'.contains n := fun n => by
    rw [Bool.eq_iff_iff, List.contains_iff_mem, List.contains_iff_mem]
    exact h n
  simp only [missing?, hc]

/-- In which order names have been seen does not matter. -/
theorem ofMembers_congr {seen seen' : List String} (h : ∀ n, n ∈ seen ↔ n ∈ seen') (a : α)
    (ms : List (String × Value)) :
    r.ofMembers origin seen a ms = r.ofMembers origin seen' a ms := by
  induction ms generalizing seen seen' a with
  | nil => simp only [ofMembers, finish, missing?_congr h]
  | cons m ms ih =>
    obtain ⟨name, v⟩ := m
    have hcons : ∀ n, n ∈ name :: seen ↔ n ∈ name :: seen' := fun n => by
      rw [List.mem_cons, List.mem_cons, h]
    rw [ofMembers, ofMembers]
    simp only [h, ih h, ih hcons]

/-- The known members have names of their own. -/
theorem nodup_of_ofMembers {seen : List String} {a b : α} {ms : List (String × Value)}
    (h : r.ofMembers origin seen a ms = .ok b) :
    ((ms.filter (r.knows ·.1)).map (·.1)).Nodup ∧
      ∀ n ∈ (ms.filter (r.knows ·.1)).map (·.1), n ∉ seen := by
  induction ms generalizing seen a with
  | nil => exact ⟨List.nodup_nil, fun _ hn => absurd hn List.not_mem_nil⟩
  | cons m ms ih =>
    obtain ⟨name, v⟩ := m
    cases hf : r.field? name with
    | none =>
      rw [ofMembers_unknown hf] at h
      rw [filter_other (not_knows_of_field? hf)]
      exact ih h
    | some f =>
      obtain ⟨hseen, set, -, hrest⟩ := (ofMembers_known hf).1 h
      obtain ⟨hnodup, hnot⟩ := ih hrest
      rw [filter_member (knows_of_field? hf), List.map_cons]
      refine ⟨List.nodup_cons.2 ⟨fun hm => hnot name hm List.mem_cons_self, hnodup⟩, fun n hn => ?_⟩
      rcases List.mem_cons.1 hn with rfl | hn
      · exact hseen
      · exact fun hs => hnot n hn (List.mem_cons_of_mem _ hs)

/-- **The members may come in any order.** -/
theorem ofMembers_perm (h : r.Commutes) {ms ms' : List (String × Value)} (hp : ms.Perm ms')
    {seen : List String} {a b : α} (hb : r.ofMembers origin seen a ms = .ok b) :
    r.ofMembers origin seen a ms' = .ok b := by
  induction hp generalizing seen a with
  | nil => exact hb
  | cons m _ ih =>
    obtain ⟨name, v⟩ := m
    cases hf : r.field? name with
    | none =>
      rw [ofMembers_unknown hf] at hb ⊢
      exact ih hb
    | some f =>
      obtain ⟨hseen, set, hset, hrest⟩ := (ofMembers_known hf).1 hb
      exact (ofMembers_known hf).2 ⟨hseen, set, hset, ih hrest⟩
  | swap x y ms =>
    obtain ⟨n, v⟩ := x
    obtain ⟨n', v'⟩ := y
    cases hf : r.field? n with
    | none =>
      rw [ofMembers_unknown hf]
      cases hf' : r.field? n' with
      | none =>
        rw [ofMembers_unknown hf', ofMembers_unknown hf] at hb
        rwa [ofMembers_unknown hf']
      | some f' =>
        obtain ⟨hseen, set, hset, hrest⟩ := (ofMembers_known hf').1 hb
        rw [ofMembers_unknown hf] at hrest
        exact (ofMembers_known hf').2 ⟨hseen, set, hset, hrest⟩
    | some f =>
      cases hf' : r.field? n' with
      | none =>
        rw [ofMembers_unknown hf'] at hb
        obtain ⟨hseen, set, hset, hrest⟩ := (ofMembers_known hf).1 hb
        refine (ofMembers_known hf).2 ⟨hseen, set, hset, ?_⟩
        rwa [ofMembers_unknown hf']
      | some f' =>
        -- both are known: their names differ, as the first one has been seen when the other comes
        obtain ⟨hseen', set', hset', hrest'⟩ := (ofMembers_known hf').1 hb
        obtain ⟨hseen, set, hset, hrest⟩ := (ofMembers_known hf).1 hrest'
        obtain ⟨hne, hseen⟩ := not_or.1 (mt List.mem_cons.2 hseen)
        have hne' : n' ∉ n :: seen := fun hm =>
          (List.mem_cons.1 hm).elim (fun he => hne he.symm) hseen'
        refine (ofMembers_known hf).2 ⟨hseen, set, hset, (ofMembers_known hf').2
          ⟨hne', set', hset', ?_⟩⟩
        obtain ⟨hmem, hname⟩ := mem_of_field? hf
        obtain ⟨hmem', hname'⟩ := mem_of_field? hf'
        have hnames : f'.name ≠ f.name := by rwa [hname, hname', ne_comm]
        rw [h f' hmem' f hmem hnames origin v' v set' set hset' hset, ← hrest]
        exact ofMembers_congr (fun k => by simp only [List.mem_cons]; exact or_left_comm) _ _
  | trans _ _ ih ih' => exact ih' (ih hb)

/-- Each member may be arranged in itself. -/
theorem ofMembers_canonical (h : r.Steady) {ms : List (String × Value)} {seen : List String}
    {a b : α} (hb : r.ofMembers origin seen a ms = .ok b) :
    r.ofMembers origin seen a (canonicalMembers ms) = .ok b := by
  induction ms generalizing seen a with
  | nil => exact hb
  | cons m ms ih =>
    obtain ⟨name, v⟩ := m
    rw [canonicalMembers]
    cases hf : r.field? name with
    | none =>
      rw [ofMembers_unknown hf] at hb ⊢
      exact ih hb
    | some f =>
      obtain ⟨hseen, set, hset, hrest⟩ := (ofMembers_known hf).1 hb
      exact (ofMembers_known hf).2
        ⟨hseen, set, h.fields f (mem_of_field? hf).1 origin v set hset, ih hrest⟩

/-- **What a record reads from members it reads from them in another order.** -/
theorem ofMembers_tidied (h : r.Steady) {ms ms' : List (String × Value)} (ht : Tidied ms ms')
    {a b : α} (hb : r.ofMembers origin [] a ms = .ok b) : r.ofMembers origin [] a ms' = .ok b := by
  have hperm := ht r.knows (nodup_of_ofMembers hb).1
  rw [← ofMembers_filter] at hb
  rw [← ofMembers_filter]
  exact ofMembers_perm h.commutes hperm.symm (ofMembers_canonical h hb)

theorem ofItems_canonical {fields : List (Field α)} (h : ∀ f ∈ fields, f.setter.Steady)
    {vs : List Value} {a b : α} (hb : ofItems origin fields a vs = .ok b) :
    ofItems origin fields a (canonicalItems vs) = .ok b := by
  induction fields generalizing vs a with
  | nil =>
    cases vs with
    | nil => exact hb
    | cons v vs => cases hb
  | cons f fs ih =>
    cases vs with
    | nil => exact hb
    | cons v vs =>
      obtain ⟨set, hset, hrest⟩ := bind_eq_ok.1 hb
      refine bind_eq_ok.2 ⟨set, h f List.mem_cons_self origin v set hset, ?_⟩
      exact ih (fun g hg => h g (List.mem_cons_of_mem _ hg)) hrest

theorem Steady.decoder (h : r.Steady) : r.decoder.Steady := by
  intro origin v a ha
  cases v with
  | array vs => exact ofItems_canonical h.fields ha
  | object ms => exact ofMembers_tidied h (arrange_tidied ms) ha
  | _ => cases ha

end

end Record

/-! ## Tagged objects -/

/-- The form makes the same of members in another order, and of items that have been arranged. -/
structure Variant.Steady (x : Variant α) : Prop where
  members : ∀ ms ms' a, Tidied ms ms' → x.content (.object ms) = .ok a →
    x.content (.object ms') = .ok a
  items : ∀ vs a, x.content (.array vs) = .ok a → x.content (.array (canonicalItems vs)) = .ok a

@[simp] theorem Variant.ofRecord_steady {r : Record β} (h : r.Steady) (tag : String) (f : β → α) :
    (Variant.ofRecord tag r f).Steady := by
  have hmap : ∀ v v' a, (∀ b, r.ofValue .aside v = .ok b → r.ofValue .aside v' = .ok b) →
      (r.ofValue .aside v).map f = .ok a → (r.ofValue .aside v').map f = .ok a := by
    intro v v' a hv ha
    cases hb : r.ofValue .aside v with
    | ok b =>
      rw [hb] at ha
      rw [hv b hb]
      exact ha
    | error e =>
      rw [hb] at ha
      cases ha
  exact ⟨fun ms ms' a ht => hmap _ _ a fun _ hb => Record.ofMembers_tidied h ht hb,
    fun vs a => hmap _ _ a fun _ hb => Record.ofItems_canonical h.fields hb⟩

@[simp] theorem Variant.constant_steady (tag : String) (a : α) :
    (Variant.constant tag a).Steady where
  members _ _ _ _ h := h
  items vs _ h := by
    cases vs with
    | nil => exact h
    | cons v vs => cases h

namespace Decoder

section
variable {tagName : String} {variants : List (Variant α)}

theorem mem_of_variant {tag : String} {x : Variant α} (h : variant variants tag = .ok x) :
    x ∈ variants := by
  unfold variant ofName at h
  split at h
  · next y hy =>
    obtain ⟨before, after, hsplit, -⟩ := List.lookup_eq_some_iff.1 hy
    cases h
    have hm : (tag, x) ∈ variants.map fun v => (v.tag, v) := hsplit ▸ by simp
    obtain ⟨z, hz, he⟩ := List.mem_map.1 hm
    obtain ⟨-, rfl⟩ := Prod.mk.inj he
    exact hz
  · cases h

/-- A member with another name is set aside. -/
theorem splitTag_other {name : String} (hn : name ≠ tagName) {found : Option (Variant α)}
    {v : Value} {ms others : List (String × Value)} {x : Variant α} :
    splitTag tagName variants found ((name, v) :: ms) = .ok (x, others) ↔
      ∃ rest, splitTag tagName variants found ms = .ok (x, rest) ∧ others = (name, v) :: rest := by
  have hstep : splitTag tagName variants found ((name, v) :: ms) =
      splitTag tagName variants found ms >>= fun p => .ok (p.1, (name, v) :: p.2) := by
    cases found <;> (rw [splitTag.eq_def]; exact if_neg hn)
  rw [hstep, bind_eq_ok]
  constructor
  · rintro ⟨⟨y, rest⟩, hrest, he⟩
    obtain ⟨rfl, rfl⟩ := Prod.mk.inj (Except.ok.inj he)
    exact ⟨rest, hrest, rfl⟩
  · rintro ⟨rest, hrest, rfl⟩
    exact ⟨(x, rest), hrest, rfl⟩

/-- A member that has the name of the tag is not set aside. -/
theorem splitTag_tag {v : Value} {ms others : List (String × Value)} {x : Variant α} :
    splitTag tagName variants none ((tagName, v) :: ms) = .ok (x, others) ↔
      ∃ tag, v = .string tag ∧ ∃ y, variant variants tag = .ok y ∧
        splitTag tagName variants (some y) ms = .ok (x, others) := by
  rw [splitTag.eq_def]
  dsimp only
  rw [if_pos rfl, if_neg (by simp)]
  cases v with
  | string tag =>
    dsimp only
    rw [bind_eq_ok]
    exact ⟨fun h => ⟨tag, rfl, h⟩, fun ⟨_, he, h⟩ => by cases he; exact h⟩
  | _ =>
    refine iff_of_false (fun h => by cases h) ?_
    rintro ⟨tag, he, -⟩
    cases he

/-- After the tag, all members are set aside. -/
theorem splitTag_some {y x : Variant α} {ms others : List (String × Value)} :
    splitTag tagName variants (some y) ms = .ok (x, others) ↔
      y = x ∧ ms.filter (decide <| ·.1 = tagName) = [] ∧
        others = ms.filter (decide <| ·.1 ≠ tagName) := by
  induction ms generalizing others with
  | nil => simp [splitTag, eq_comm]
  | cons m ms ih =>
    obtain ⟨name, v⟩ := m
    by_cases hn : name = tagName
    · subst hn
      simp [splitTag]
    · rw [splitTag_other hn]
      simp only [ih, List.filter_cons, hn, decide_false, Bool.false_eq_true, if_false, ne_eq,
        not_false_eq_true, decide_true, if_true]
      constructor
      · rintro ⟨rest, ⟨hy, hnone, rfl⟩, rfl⟩
        exact ⟨hy, hnone, rfl⟩
      · rintro ⟨hy, hnone, rfl⟩
        exact ⟨_, ⟨hy, hnone, rfl⟩, rfl⟩

/-- **The tag of an object, and the other members.** -/
theorem splitTag_none {x : Variant α} {ms others : List (String × Value)} :
    splitTag tagName variants none ms = .ok (x, others) ↔
      ∃ tag, ms.filter (decide <| ·.1 = tagName) = [(tagName, .string tag)] ∧
        variant variants tag = .ok x ∧ others = ms.filter (decide <| ·.1 ≠ tagName) := by
  induction ms generalizing others with
  | nil => simp [splitTag]
  | cons m ms ih =>
    obtain ⟨name, v⟩ := m
    by_cases hn : name = tagName
    · subst hn
      rw [splitTag_tag]
      simp only [splitTag_some, List.filter_cons, decide_true, if_true, ne_eq, not_true_eq_false,
        decide_false, Bool.false_eq_true, if_false, List.cons.injEq, Prod.mk.injEq, true_and]
      constructor
      · rintro ⟨tag, rfl, y, hy, rfl, hnone, hothers⟩
        exact ⟨tag, ⟨rfl, hnone⟩, hy, hothers⟩
      · rintro ⟨tag, ⟨rfl, hnone⟩, hy, hothers⟩
        exact ⟨tag, rfl, x, hy, rfl, hnone, hothers⟩
    · rw [splitTag_other hn]
      simp only [ih, List.filter_cons, hn, decide_false, Bool.false_eq_true, if_false, ne_eq,
        not_false_eq_true, decide_true, if_true]
      constructor
      · rintro ⟨rest, ⟨tag, htag, hx, rfl⟩, rfl⟩
        exact ⟨tag, htag, hx, rfl⟩
      · rintro ⟨tag, htag, hx, rfl⟩
        exact ⟨_, ⟨tag, htag, hx, rfl⟩, rfl⟩

/-- **A tagged object may have its members in any order.** -/
theorem tagged_steady (h : ∀ x ∈ variants, x.Steady) : (tagged tagName variants).Steady := by
  intro origin v a ha
  cases v with
  | object ms =>
    obtain ⟨⟨x, others⟩, hsplit, hcontent⟩ := bind_eq_ok.1 ha
    obtain ⟨tag, htag, hx, rfl⟩ := splitTag_none.1 hsplit
    have htidied := arrange_tidied ms
    -- the tag is a string, which has no members
    have htag' : (arrange (canonicalMembers ms)).filter (decide <| ·.1 = tagName) =
        [(tagName, .string tag)] := by
      have hperm := htidied (fun name => decide (name = tagName))
        (by rw [htag]; exact List.nodup_singleton tagName)
      rw [htag] at hperm
      exact List.perm_singleton.1 hperm
    refine bind_eq_ok.2 ⟨(x, _), splitTag_none.2 ⟨tag, htag', hx, rfl⟩, ?_⟩
    exact (h x (mem_of_variant hx)).members _ _ a
      (htidied.filter fun name => decide (name ≠ tagName)) hcontent
  | array vs =>
    match vs, ha with
    | .string tag :: vs, ha =>
      obtain ⟨x, hx, hcontent⟩ := bind_eq_ok.1 ha
      exact bind_eq_ok.2 ⟨x, hx, (h x (mem_of_variant hx)).items vs a hcontent⟩
  | _ => cases ha

end

end Decoder

end ClusterSession.Json
