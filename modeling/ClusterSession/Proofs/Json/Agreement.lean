/-
  ClusterSession: the two ways of a decoder agree.

  * `Decoder.Agrees`: what a decoder makes of a document it makes of the text of the
    document.
  * `readList_items`, `readNamed_members`, `readTagged_members`: the readers of arrays, of
    records and of tagged objects follow the document.
  * `tagged_agrees` and the like: the two ways agree for every way to build a decoder.
  * `recovers`: what a document denotes is read from its texts, either way.
-/
import ClusterSession.Proofs.Json.Steadiness

namespace ClusterSession.Json

variable {α β : Type} {depth : Nat} {rest : List Char}

/-- The texts of a document: its members as they stand, and arranged. -/
def Value.texts (v : Value) : List String := [v.compact, v.canonical.compact]

namespace Decoder

/-- The decoder makes of the text of a document what it makes of the document. -/
def Agrees (d : Decoder α) : Prop :=
  ∀ v a, d.ofValue .document v = .ok a → ∀ depth rest, v.Fits depth → Stops rest →
    d.read depth (v.chars ++ rest) = .ok (a, rest)

section
variable {d : Decoder α}

@[simp] theorem refine_agrees (h : d.Agrees) (f : α → Except Mismatch β) : (d.refine f).Agrees := by
  intro v b hb depth rest hv hrest
  obtain ⟨a, ha, hf⟩ := bind_eq_ok.1 hb
  have hread := h v a ha depth rest hv hrest
  simp only [refine, hread, ok_bind, hf, unfit]

@[simp] theorem map_agrees (h : d.Agrees) (f : α → β) : (d.map f).Agrees := refine_agrees h _

/-! ## Simple shapes -/

theorem readText_string (s : String) (rest : List Char) :
    readText ((Value.string s).chars ++ rest) = .ok (s, rest) := by
  rw [Value.string_chars]
  exact readString_quoted s rest

@[simp] theorem text_agrees : text.Agrees := by
  intro v s h depth rest _ _
  cases v with
  | string s' =>
    cases h
    exact readText_string s rest
  | _ => cases h

/-- A natural number that fits 64 bits is read with its sign, which it has not. -/
theorem readSigned_natural {n : Nat} (hn : n < UInt64.size) (hrest : Stops rest) :
    readSigned (Nat.toDigits 10 n ++ rest) = .ok (.natural n, rest) := by
  obtain ⟨d, ds, hds, hd⟩ := toDigits_eq_cons n
  have hread := readNumber_natural hn hrest
  rw [hds, List.cons_append] at hread ⊢
  rw [readSigned, skipBlank_cons (isBlank_of_isDigit hd)]
  split
  · next he => exact absurd (List.cons.inj he).1 (digit_ne hd _ rfl)
  · next he =>
    obtain ⟨rfl, rfl⟩ := List.cons.inj he
    rw [if_pos hd, hread]
  · next he => cases he

@[simp] theorem natural_agrees (bound : Nat) : (natural bound).Agrees := by
  intro v n h depth rest hv hrest
  cases v with
  | number x =>
    obtain ⟨k, hk, rfl⟩ := number_fits_iff.1 hv
    have hbelow : below bound (.natural k) = .ok n := h
    show readSigned (Nat.toDigits 10 k ++ rest) >>= _ = _
    rw [readSigned_natural hk hrest]
    simp only [ok_bind, hbelow, unfit]
  | _ => cases h

@[simp] theorem uint64_agrees : uint64.Agrees := map_agrees (natural_agrees _) _

@[simp] theorem uint32_agrees : uint32.Agrees := map_agrees (natural_agrees _) _

theorem nullable_read {cs : List Char} (h : ∀ tail, skipBlank cs ≠ 'n' :: tail) :
    d.nullable.read depth cs = (d.read depth).map some (skipBlank cs) := by
  unfold nullable
  dsimp only
  split
  · next he => exact absurd he (h _)
  · rfl

@[simp] theorem nullable_agrees (h : d.Agrees) : d.nullable.Agrees := by
  intro v a ha depth rest hv hrest
  by_cases hnull : v = .null
  · subst hnull
    cases ha
    rfl
  · obtain ⟨b, hb, rfl⟩ := (nullable_eq_ok hnull).1 ha
    obtain ⟨c, cs, hc, hblank, -, hn⟩ := hv.chars_eq_cons
    have hread := h v b hb depth rest hv hrest
    rw [hc, List.cons_append] at hread ⊢
    have hskip := skipBlank_cons hblank (cs ++ rest)
    have hn : ∀ tail, skipBlank (c :: (cs ++ rest)) ≠ 'n' :: tail := fun tail he => by
      rw [hskip] at he
      exact hnull (hn (List.cons.inj he).1)
    rw [nullable_read hn, hskip, Read.map, hread]

theorem length_lt_itemChars (vs : List Value) : vs.length < (itemChars false vs).length := by
  induction vs with
  | nil => exact Nat.succ_pos _
  | cons v vs ih =>
    rw [itemChars_length, List.length_cons]
    simp only [Bool.false_eq_true, if_false]
    omega

theorem length_le_itemChars (first : Bool) (vs : List Value) (rest : List Char) :
    vs.length ≤ (itemChars first vs ++ rest).length := by
  rw [List.length_append]
  cases vs with
  | nil => exact Nat.zero_le _
  | cons v vs =>
    have := length_lt_itemChars vs
    rw [itemChars_length, List.length_cons]
    omega

/-- The items of an array are read one after another. -/
theorem readList_items (h : d.Agrees) {vs : List Value} {as : List α}
    (hm : vs.mapM (d.ofValue .document) = .ok as) (hv : ItemsFit depth vs) {fuel : Nat}
    (hfuel : vs.length ≤ fuel) (first : Bool) :
    readList d (fuel + 1) depth first (itemChars first vs ++ rest) = .ok (as, rest) := by
  induction vs generalizing as fuel first with
  | nil =>
    cases hm
    rw [readList, nextItem_nil]
    rfl
  | cons v vs ih =>
    obtain ⟨fuel, rfl⟩ := Nat.exists_eq_add_one_of_ne_zero (Nat.ne_zero_of_lt hfuel)
    rw [List.mapM_cons] at hm
    obtain ⟨a, ha, hrest⟩ := bind_eq_ok.1 hm
    obtain ⟨as', has, he⟩ := bind_eq_ok.1 hrest
    cases he
    have hread := h v a ha depth _ hv.1 (stops_itemChars vs rest)
    have hmore := ih has hv.2 (Nat.le_of_succ_le_succ hfuel) false
    rw [readList, nextItem_cons first hv.1]
    simp only [ok_bind, hread, hmore]

@[simp] theorem list_agrees (h : d.Agrees) : d.list.Agrees := by
  intro v as ha depth rest hv hrest
  cases v with
  | array vs =>
    cases depth with
    | zero => cases hv
    | succ depth => exact readList_items h ha hv (length_le_itemChars true vs rest) true
  | _ => cases ha

/-! ## Names -/

@[simp] theorem name_agrees (names : List (String × α)) : (name names).Agrees := by
  intro v a ha depth rest hv hrest
  cases v with
  | string s =>
    have hname : ofName names s = .ok a := ha
    rw [Value.string_chars]
    show readString (s.toList.flatMap escape ++ '\x22' :: rest) >>= _ = _
    rw [readString_quoted]
    simp only [ok_bind, hname, unfit]
  | object ms =>
    rcases ms with _ | ⟨⟨n, v⟩, _ | ⟨m, ms⟩⟩
    · cases ha
    · cases depth with
      | zero => cases hv
      | succ depth =>
        obtain ⟨b, hb, hsays⟩ := bind_eq_ok.1 ha
        -- in a document, only `null` says nothing
        have hnull : v = .null ∧ b = a := by
          split at hsays
          · next hs =>
            refine ⟨?_, Except.ok.inj hsays⟩
            cases v with
            | null => rfl
            | object ms => cases ms <;> cases hs
            | _ => cases hs
          · cases hsays
        obtain ⟨rfl, rfl⟩ := hnull
        have htext : (Value.object [(n, .null)]).chars ++ rest = '{' ::
            ((Value.string n).chars ++ (':' :: 'n' :: 'u' :: 'l' :: 'l' :: '}' :: rest)) := by
          simp [Value.chars, memberChars]
        rw [htext]
        show readNamedNull names
          ((Value.string n).chars ++ (':' :: 'n' :: 'u' :: 'l' :: 'l' :: '}' :: rest)) = _
        rw [readNamedNull, readText_string]
        simp only [ok_bind, hb, unfit]
        rfl
    · cases ha
  | _ => cases ha

end

end Decoder

theorem length_le_memberChars (first : Bool) (ms : List (String × Value)) (rest : List Char) :
    ms.length ≤ (memberChars first ms ++ rest).length := by
  rw [List.length_append]
  induction ms generalizing first with
  | nil => exact Nat.zero_le _
  | cons m ms ih =>
    obtain ⟨name, v⟩ := m
    have := memberChars_length first name v ms
    have := ih false
    rw [List.length_cons]
    omega

/-! ## Records -/

namespace Record

/-- The two ways to read a member agree. -/
def Agrees (r : Record α) : Prop := ∀ f ∈ r.fields, f.setter.Agrees

section
variable {r : Record α}

/-- **The members of a record are read one after another**, and others are passed over. -/
theorem readNamed_members (h : r.Agrees) {ms : List (String × Value)} {seen : List String} {a b : α}
    (hb : r.ofMembers .document seen a ms = .ok b) (hv : MembersFit depth ms) {fuel : Nat}
    (hfuel : ms.length ≤ fuel) (first : Bool) :
    r.readNamed (fuel + 1) depth first seen a (memberChars first ms ++ rest) = .ok (b, rest) := by
  induction ms generalizing seen a fuel first with
  | nil =>
    have hfinish : r.finish seen a = .ok b := hb
    rw [readNamed, nextName_nil]
    simp only [ok_bind, hfinish, unfit]
  | cons m ms ih =>
    obtain ⟨fuel, rfl⟩ := Nat.exists_eq_add_one_of_ne_zero (Nat.ne_zero_of_lt hfuel)
    obtain ⟨name, v⟩ := m
    obtain ⟨hfit, hfits⟩ := hv
    have hmore := Nat.le_of_succ_le_succ hfuel
    rw [readNamed, nextName_cons]
    cases hf : r.field? name with
    | none =>
      rw [Record.ofMembers_unknown hf] at hb
      have hskip := skipValue_chars hfit (stops_memberChars ms rest)
      simp only [ok_bind, hf, colon_cons, hskip]
      exact ih hb hfits hmore false
    | some f =>
      obtain ⟨hseen, set, hset, hrest⟩ := (Record.ofMembers_known hf).1 hb
      have hread := h f (Record.mem_of_field? hf).1 v set hset depth _ hfit
        (stops_memberChars ms rest)
      simp only [ok_bind, hf, if_neg hseen, colon_cons, hread]
      exact ih hrest hfits hmore false

/-- The items of an array are read as the values of the members in order. -/
theorem readListed_items {fields : List (Field α)} (h : ∀ f ∈ fields, f.setter.Agrees)
    {vs : List Value} {a b : α} (hb : ofItems .document fields a vs = .ok b)
    (hv : ItemsFit depth vs) (first : Bool) :
    readListed fields depth first a (itemChars first vs ++ rest) = .ok (b, rest) := by
  induction fields generalizing vs a first with
  | nil =>
    cases vs with
    | nil =>
      cases hb
      rfl
    | cons v vs => cases hb
  | cons f fs ih =>
    cases vs with
    | nil =>
      rw [readListed, nextItem_nil]
      simp only [ok_bind]
      rw [ofItems] at hb
      split at hb
      · cases hb
      · next hreq =>
        cases hb
        rw [if_neg hreq]
    | cons v vs =>
      obtain ⟨set, hset, hrest⟩ := bind_eq_ok.1 hb
      have hread := h f List.mem_cons_self v set hset depth _ hv.1 (stops_itemChars vs rest)
      rw [readListed, nextItem_cons first hv.1]
      simp only [ok_bind, hread]
      exact ih (fun g hg => h g (List.mem_cons_of_mem _ hg)) hrest hv.2 false

theorem Agrees.decoder (h : r.Agrees) : r.decoder.Agrees := by
  intro v a ha depth rest hv hrest
  cases v with
  | array vs =>
    cases depth with
    | zero => cases hv
    | succ depth => exact readListed_items h ha hv true
  | object ms =>
    cases depth with
    | zero => cases hv
    | succ depth => exact readNamed_members h ha hv (length_le_memberChars true ms rest) true
  | _ => cases ha

end

end Record

/-! ## Tagged objects -/

namespace Decoder

section
variable {tagName : String} {variants : List (Variant α)}

/-- **The members of a tagged object are read one after another**, and set aside as they are. -/
theorem readTagged_members {found : Option (Variant α)} {ms others : List (String × Value)}
    {x : Variant α} (h : splitTag tagName variants found ms = .ok (x, others))
    (hv : MembersFit depth ms) {fuel : Nat} (hfuel : ms.length ≤ fuel) (first : Bool) :
    readTagged tagName variants (fuel + 1) depth first found (memberChars first ms ++ rest) =
      .ok ((x, others), rest) := by
  induction ms generalizing found others fuel first with
  | nil =>
    rw [readTagged, nextName_nil]
    cases found with
    | none => cases h
    | some y =>
      cases h
      rfl
  | cons m ms ih =>
    obtain ⟨fuel, rfl⟩ := Nat.exists_eq_add_one_of_ne_zero (Nat.ne_zero_of_lt hfuel)
    obtain ⟨name, v⟩ := m
    obtain ⟨hfit, hfits⟩ := hv
    have hmore := Nat.le_of_succ_le_succ hfuel
    rw [readTagged, nextName_cons]
    simp only [ok_bind, colon_cons]
    by_cases hn : name = tagName
    · subst hn
      cases found with
      | some y =>
        rw [splitTag.eq_def] at h
        simp at h
      | none =>
        obtain ⟨tag, rfl, y, hy, hsplit⟩ := splitTag_tag.1 h
        rw [if_pos rfl, if_neg (by simp), readText_string]
        simp only [ok_bind, hy, unfit]
        exact ih hsplit hfits hmore false
    · obtain ⟨set, hsplit, rfl⟩ := (splitTag_other hn).1 h
      rw [if_neg hn, readValue_chars hfit (stops_memberChars ms rest)]
      simp only [ok_bind, ih hsplit hfits hmore false]

theorem tagged_agrees : (tagged tagName variants).Agrees := by
  intro v a ha depth rest hv hrest
  cases v with
  | object ms =>
    cases depth with
    | zero => cases hv
    | succ depth =>
      obtain ⟨⟨x, others⟩, hsplit, hcontent⟩ := bind_eq_ok.1 ha
      replace hcontent : x.content (.object others) = .ok a := hcontent
      show readTagged tagName variants ((memberChars true ms ++ rest).length + 1) depth true none
        (memberChars true ms ++ rest) >>= _ = _
      rw [readTagged_members hsplit hv (length_le_memberChars true ms rest) true]
      simp only [ok_bind, hcontent, unfit]
  | array vs =>
    cases depth with
    | zero => cases hv
    | succ depth =>
      obtain ⟨tag, vs, rfl⟩ : ∃ tag items, vs = .string tag :: items := by
        cases vs with
        | nil => cases ha
        | cons v items =>
          cases v with
          | string tag => exact ⟨tag, items, rfl⟩
          | _ => cases ha
      obtain ⟨x, hx, hcontent⟩ := bind_eq_ok.1 ha
      have htext : (Value.array (.string tag :: vs)).chars ++ rest =
          '[' :: (itemChars true (.string tag :: vs) ++ rest) := rfl
      have hfuel : (itemChars false vs).length ≤ 2 * (itemChars false vs ++ rest).length + 2 := by
        rw [List.length_append]
        omega
      have hitems := (reads _).items false vs depth rest hv.2 hfuel
      rw [htext]
      show nextItem true (itemChars true (.string tag :: vs) ++ rest) >>= _ = _
      rw [nextItem_cons true hv.1]
      simp only [ok_bind, readText_string, hx, hitems, hcontent, unfit]
  | _ => cases ha

/-! ## Whole texts -/

variable {d : Decoder α} {v : Value} {a : α}

/-- **The text of a document is read as the document is.** -/
theorem fromText_compact (h : d.Agrees) (hv : v.Fits maxDepth)
    (ha : d.ofValue .document v = .ok a) : d.fromText v.compact = .ok a := by
  have hread := h v a ha maxDepth [] hv trivial
  rw [List.append_nil] at hread
  rw [fromText, readAll, Value.compact, String.toList_ofList, hread]
  rfl

/-- **So is the document that the text denotes.** -/
theorem fromDocument_compact (h : d.Steady) (hv : v.Fits maxDepth)
    (ha : d.ofValue .document v = .ok a) : d.fromDocument v.compact = .ok a := by
  rw [fromDocument, parse_compact hv]
  show unfit (d.ofValue .document v.canonical) = _
  rw [h .document v a ha]
  rfl

/-- What a document denotes is read from its texts, either way. -/
theorem recovers (hs : d.Steady) (hg : d.Agrees) (hv : v.Fits maxDepth)
    (ha : d.ofValue .document v = .ok a) {s : String} (h : s ∈ v.texts) :
    d.fromText s = .ok a ∧ d.fromDocument s = .ok a := by
  have hread : ∀ w : Value, w.Fits maxDepth → d.ofValue .document w = .ok a →
      d.fromText w.compact = .ok a ∧ d.fromDocument w.compact = .ok a :=
    fun w hw hwa => ⟨fromText_compact hg hw hwa, fromDocument_compact hs hw hwa⟩
  rcases List.mem_pair.1 h with rfl | rfl
  · exact hread v hv ha
  · exact hread v.canonical hv.canonical (hs .document v a ha)

end

end Decoder

end ClusterSession.Json
