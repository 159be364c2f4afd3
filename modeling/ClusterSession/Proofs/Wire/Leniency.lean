/-
  ClusterSession: responses are read leniently.

  * `Loosened`: members that were not declared come in, members that say nothing come in
    or go, and the order is another one.
  * `Record.Idle`: a member that leaves the blank record as it is.
  * `ofMembers_loosened`, `tagged_loosened`: what is read from the members of an object is
    read from them loosened.
  * `mem_of_ofMembers`, `mem_of_tagged`: a required member may not be missing, and neither
    may the tag.
  * `responses_lenient`: what follows for every response frame.
-/
import ClusterSession.Proofs.Wire.Frames

namespace ClusterSession

namespace Json

variable {α β : Type} {origin : Origin} {declared : List String} {idle : List (String × Value)}
  {ms ms' : List (String × Value)}

/-- The members of an object after changes that its reader should not notice: some that nobody
    declared, some that say nothing more or less, and another order. -/
inductive Loosened (declared : List String) (idle ms : List (String × Value)) :
    List (String × Value) → Prop where
  | same : Loosened declared idle ms ms
  | reordered {ms' ms'' : List (String × Value)} :
    Loosened declared idle ms ms' → ms'.Perm ms'' → Loosened declared idle ms ms''
  /-- A member with a name that is not declared comes in, whatever its value. -/
  | stranger {ms' : List (String × Value)} {name : String} (v : Value) :
    Loosened declared idle ms ms' → name ∉ declared → Loosened declared idle ms ((name, v) :: ms')
  /-- A member that says nothing comes in where there is none of its name. -/
  | put {ms' : List (String × Value)} {m : String × Value} :
    Loosened declared idle ms ms' → m ∈ idle → m.1 ∉ ms'.map (·.1) →
      Loosened declared idle ms (m :: ms')
  /-- A member that says nothing goes. -/
  | left {ms' : List (String × Value)} {m : String × Value} :
    Loosened declared idle ms (m :: ms') → m ∈ idle → Loosened declared idle ms ms'

namespace Loosened

/-- Of the members with some names, the same is true. -/
theorem filter (h : Loosened declared idle ms ms') (p : String → Bool) :
    Loosened declared idle (ms.filter (p ·.1)) (ms'.filter (p ·.1)) := by
  induction h with
  | same => exact .same
  | reordered _ hperm ih => exact .reordered ih (hperm.filter _)
  | @stranger ms' name v _ hname ih =>
    cases hp : p name with
    | true =>
      rw [filter_member hp]
      exact .stranger v ih hname
    | false => rwa [filter_other hp]
  | @put ms' m _ hm hnew ih =>
    cases hp : p m.1 with
    | true =>
      rw [filter_member hp]
      exact .put ih hm fun hmem => hnew ((List.filter_sublist.map _).subset hmem)
    | false => rwa [filter_other hp]
  | @left ms' m _ hm ih =>
    cases hp : p m.1 with
    | true =>
      rw [filter_member hp] at ih
      exact .left ih hm
    | false => rwa [filter_other hp] at ih

/-- Declared members that say something are all still there. -/
theorem perm (h : Loosened declared idle ms ms') {p : String → Bool}
    (hdeclared : ∀ name, p name = true → name ∈ declared)
    (hidle : ∀ m ∈ idle, p m.1 = false) :
    (ms.filter (p ·.1)).Perm (ms'.filter (p ·.1)) := by
  induction h with
  | same => exact .refl _
  | reordered _ hperm ih => exact ih.trans (hperm.filter _)
  | @stranger ms' name v _ hname ih =>
    have hp : p name = false := Bool.eq_false_iff.2 fun hp => hname (hdeclared name hp)
    rwa [filter_other hp]
  | put _ hm _ ih => rwa [filter_other (hidle _ hm)]
  | left _ hm ih => rwa [filter_other (hidle _ hm)] at ih

end Loosened

/-! ## Records -/

namespace Record

variable {r : Record α}

/-- The member says nothing: the record does not know it, or does not require it and has what it
    says before any member is read. -/
def Idle (r : Record α) (origin : Origin) (m : String × Value) : Prop :=
  r.field? m.1 = none ∨
    ∃ f set, r.field? m.1 = some f ∧ (∀ g ∈ r.fields, g.name = m.1 → g.required = false) ∧
      f.setter.ofValue origin m.2 = .ok set ∧ set r.blank = r.blank

/-- A member that may be left out says nothing with the value that stands for it then. -/
theorem idle_of_may {name : String} {d : Decoder β} {set : β → α → α} {v : Value} {b : β}
    (hf : r.field? name = some (.may name d set))
    (hreq : ∀ g ∈ r.fields, g.name = name → g.required = false)
    (hv : d.ofValue origin v = .ok b) (hset : set b r.blank = r.blank) :
    r.Idle origin (name, v) :=
  .inr ⟨_, set b, hf, hreq, Decoder.map_eq_ok.2 ⟨b, hv, rfl⟩, hset⟩

/-- A member that says nothing may be left out where no other has its name. -/
theorem ofMembers_idle {m : String × Value} (h : r.Idle origin m) (hm : m.1 ∉ ms.map (·.1)) :
    r.ofMembers origin [] r.blank (m :: ms) = r.ofMembers origin [] r.blank ms := by
  rcases h with hf | ⟨f, set, hf, hreq, hset, hblank⟩
  · exact ofMembers_unknown hf _ _ _ _
  · rw [ofMembers, hf]
    dsimp only
    rw [if_neg List.not_mem_nil, hset, ok_bind, hblank]
    exact ofMembers_seen hreq hm

/-- No other member has the name of a known one that is read first. -/
theorem not_mem_of_ofMembers {m : String × Value} {a b : α} (hm : r.knows m.1 = true)
    (hb : r.ofMembers origin [] a (m :: ms) = .ok b) : m.1 ∉ ms.map (·.1) := by
  have hnodup := (nodup_of_ofMembers hb).1
  rw [filter_member hm, List.map_cons, List.nodup_cons] at hnodup
  intro hmem
  obtain ⟨x, hx, he⟩ := List.mem_map.1 hmem
  exact hnodup.1 (List.mem_map.2 ⟨x, List.mem_filter.2 ⟨hx, by rwa [he]⟩, he⟩)

/-- **What a record reads from members it reads from them loosened.** -/
theorem ofMembers_loosened (hc : r.Commutes) (hd : ∀ f ∈ r.fields, f.name ∈ declared)
    (hi : ∀ m ∈ idle, r.Idle origin m) (h : Loosened declared idle ms ms') {b : α}
    (hb : r.ofMembers origin [] r.blank ms = .ok b) :
    r.ofMembers origin [] r.blank ms' = .ok b := by
  induction h with
  | same => exact hb
  | reordered _ hperm ih => exact ofMembers_perm hc hperm ih
  | @stranger ms' name v _ hname ih =>
    have hf : r.field? name = none := by
      refine List.find?_eq_none.2 fun f hf hn => hname ?_
      rw [← of_decide_eq_true hn]
      exact hd f hf
    rwa [ofMembers_unknown hf]
  | put _ hm hnew ih => rwa [ofMembers_idle (hi _ hm) hnew]
  | @left ms' m _ hm ih =>
    cases hf : r.field? m.1 with
    | none => rwa [ofMembers_unknown hf] at ih
    | some f => rwa [ofMembers_idle (hi m hm) (not_mem_of_ofMembers (knows_of_field? hf) ih)] at ih

/-- **A required member is there.** -/
theorem mem_of_ofMembers {f : Field α} (hf : f ∈ r.fields) (hreq : f.required = true)
    {seen : List String} {a b : α} (hb : r.ofMembers origin seen a ms = .ok b) :
    f.name ∈ seen ∨ f.name ∈ ms.map (·.1) := by
  induction ms generalizing seen a with
  | nil =>
    rw [ofMembers, finish] at hb
    split at hb
    · cases hb
    · next hmissing =>
      have hall := List.find?_eq_none.1 (Option.map_eq_none_iff.1 hmissing) f hf
      rw [hreq] at hall
      exact .inl (by simpa using hall)
  | cons m ms ih =>
    obtain ⟨name, v⟩ := m
    rw [List.map_cons, List.mem_cons]
    cases hg : r.field? name with
    | none =>
      rw [ofMembers_unknown hg] at hb
      exact (ih hb).imp_right .inr
    | some g =>
      obtain ⟨-, set, -, hrest⟩ := (ofMembers_known hg).1 hb
      rcases ih hrest with hmem | hmem
      · exact (List.mem_cons.1 hmem).elim (fun he => .inr (.inl he)) .inl
      · exact .inr (.inr hmem)

/-- Every known member can be read. -/
theorem ofValue_of_ofMembers {name : String} {f : Field α} (hf : r.field? name = some f) {v : Value}
    (hm : (name, v) ∈ ms) {seen : List String} {a b : α}
    (hb : r.ofMembers origin seen a ms = .ok b) : ∃ set, f.setter.ofValue origin v = .ok set := by
  induction ms generalizing seen a with
  | nil => exact absurd hm List.not_mem_nil
  | cons m ms ih =>
    obtain ⟨n, w⟩ := m
    cases hg : r.field? n with
    | none =>
      rw [ofMembers_unknown hg] at hb
      refine ih ((List.mem_cons.1 hm).resolve_left fun he => ?_) hb
      obtain ⟨rfl, -⟩ := Prod.mk.inj he
      rw [hf] at hg
      cases hg
    | some g =>
      obtain ⟨-, set, hset, hrest⟩ := (ofMembers_known hg).1 hb
      rcases List.mem_cons.1 hm with he | hm
      · obtain ⟨rfl, rfl⟩ := Prod.mk.inj he
        obtain rfl := Option.some.inj (hf.symm.trans hg)
        exact ⟨set, hset⟩
      · exact ih hm hrest

end Record

/-! ## Tagged objects -/

theorem Variant.content_eq_ok_iff {tag : String} {r : Record β} {g : β → α} {a : α} :
    (Variant.ofRecord tag r g).content (.object ms) = .ok a ↔
      ∃ b, r.ofMembers .aside [] r.blank ms = .ok b ∧ g b = a := by
  show (r.ofMembers .aside [] r.blank ms).map g = .ok a ↔ _
  cases r.ofMembers .aside [] r.blank ms with
  | ok b => simp [Except.map]
  | error e => simp [Except.map]

/-- A required member of the form is there. -/
theorem Variant.mem_of_content {tag : String} {r : Record β} {g : β → α} {a : α} {f : Field β}
    (hf : f ∈ r.fields) (hreq : f.required = true)
    (ha : (Variant.ofRecord tag r g).content (.object ms) = .ok a) : f.name ∈ ms.map (·.1) := by
  obtain ⟨b, hb, -⟩ := content_eq_ok_iff.1 ha
  exact (Record.mem_of_ofMembers hf hreq hb).resolve_left List.not_mem_nil

namespace Decoder

variable {tagName tag : String} {variants : List (Variant α)} {r : Record β} {g : β → α} {a : α}

/-- **The tag is there**, and the other members are read in a form of the object. -/
theorem mem_of_tagged (ha : (tagged tagName variants).ofValue origin (.object ms) = .ok a) :
    tagName ∈ ms.map (·.1) ∧
      ∃ x ∈ variants, x.content (.object (ms.filter (decide <| ·.1 ≠ tagName))) = .ok a := by
  obtain ⟨⟨x, others⟩, hsplit, hcontent⟩ := bind_eq_ok.1 ha
  obtain ⟨tag, htag, hx, rfl⟩ := splitTag_none.1 hsplit
  have hmem : (tagName, Value.string tag) ∈ ms :=
    (List.mem_filter.1 (htag ▸ List.mem_singleton_self _)).1
  exact ⟨List.mem_map_of_mem hmem, x, mem_of_variant hx, hcontent⟩

/-- A tagged object is read from its tag and the members of the form that the tag names. -/
theorem tagged_eq_ok_iff (hx : variant variants tag = .ok (.ofRecord tag r g))
    (htag : (tagName, .string tag) ∈ ms) :
    (tagged tagName variants).ofValue origin (.object ms) = .ok a ↔
      ms.filter (decide <| ·.1 = tagName) = [(tagName, .string tag)] ∧
        ∃ b, r.ofMembers .aside [] r.blank (ms.filter (decide <| ·.1 ≠ tagName)) = .ok b ∧
          g b = a := by
  refine bind_eq_ok.trans ⟨?_, ?_⟩
  · rintro ⟨⟨x, others⟩, hsplit, hcontent⟩
    obtain ⟨tag', htag', hx', rfl⟩ := splitTag_none.1 hsplit
    have hmem : (tagName, Value.string tag) ∈ ms.filter (decide <| ·.1 = tagName) :=
      List.mem_filter.2 ⟨htag, decide_eq_true rfl⟩
    rw [htag', List.mem_singleton, Prod.mk.injEq, Value.string.injEq] at hmem
    obtain ⟨-, rfl⟩ := hmem
    rw [hx] at hx'
    cases hx'
    exact ⟨htag', Variant.content_eq_ok_iff.1 hcontent⟩
  · rintro ⟨htag, hb⟩
    exact ⟨(_, _), splitTag_none.2 ⟨tag, htag, hx, rfl⟩, Variant.content_eq_ok_iff.2 hb⟩

/-- **What is read from a tagged object is read from it loosened.** -/
theorem tagged_loosened (hx : variant variants tag = .ok (.ofRecord tag r g)) (hc : r.Commutes)
    (hd : ∀ f ∈ r.fields, f.name ∈ declared) (htagName : tagName ∈ declared)
    (hi : ∀ m ∈ idle, r.Idle .aside m) (hidle : ∀ m ∈ idle, m.1 ≠ tagName)
    (h : Loosened declared idle ms ms') (htag : (tagName, .string tag) ∈ ms)
    (ha : (tagged tagName variants).ofValue origin (.object ms) = .ok a) :
    (tagged tagName variants).ofValue origin (.object ms') = .ok a := by
  obtain ⟨hone, b, hb, rfl⟩ := (tagged_eq_ok_iff hx htag).1 ha
  -- the tag is declared and says something, so it is still there, and no other
  have hperm := h.perm (p := fun name => decide (name = tagName))
    (fun name hn => of_decide_eq_true hn ▸ htagName) fun m hm => decide_eq_false (hidle m hm)
  rw [hone] at hperm
  have hone' := List.perm_singleton.1 hperm.symm
  have htag' : (tagName, Value.string tag) ∈ ms' :=
    (List.mem_filter.1 (hone' ▸ List.mem_singleton_self _)).1
  refine (tagged_eq_ok_iff hx htag').2 ⟨hone', b, ?_, rfl⟩
  exact Record.ofMembers_loosened hc hd hi (h.filter fun name => decide (name ≠ tagName)) hb

end Decoder

/-- A string keeps its place among the members of a document that is arranged. -/
theorem string_mem_arrange {name : String} (s : String) (hms : name ∉ ms.map (·.1)) :
    (name, .string s) ∈ arrange (canonicalMembers ((name, .string s) :: ms)) := by
  have hnone : ms.filter (decide <| ·.1 = name) = [] := List.filter_eq_nil_iff.2 fun m hm hn =>
    hms (of_decide_eq_true hn ▸ List.mem_map_of_mem hm)
  have hone : ((name, Value.string s) :: ms).filter (decide <| ·.1 = name) =
      [(name, .string s)] := by
    rw [filter_member (p := fun n => decide (n = name)) (decide_eq_true rfl), hnone]
  have hperm := arrange_tidied ((name, Value.string s) :: ms) (fun n => decide (n = name))
    (by rw [hone]; exact List.nodup_singleton name)
  rw [hone] at hperm
  exact (List.mem_filter.1 (hperm.mem_iff.2 List.mem_cons_self)).1

end Json

open Json

variable {origin : Origin}

/-! ## Responses -/

namespace Response

/-- The members that the body of a response may have. -/
def declared : Response → List String
  | register _ => "type" :: RegisterResponse.record.fields.map (·.name)
  | keepAlive _ => "type" :: KeepAliveResponse.record.fields.map (·.name)
  | unregister _ => "type" :: UnregisterResponse.record.fields.map (·.name)

/-- The members that say what holds without them. -/
def idle : List (String × Value) :=
  [("session", .ofNat 0), ("timeout", .ofNat 0), ("members", .array []), ("error", .null),
    ("leader", .null)]

end Response

open Record (idle_of_may) in
theorem RegisterResponse.record_idle : ∀ m ∈ Response.idle, record.Idle origin m := by
  simp only [Response.idle, List.forall_mem_cons]
  exact ⟨idle_of_may rfl (by decide) rfl rfl, idle_of_may rfl (by decide) rfl rfl,
    idle_of_may rfl (by decide) rfl rfl, idle_of_may rfl (by decide) rfl rfl,
    idle_of_may rfl (by decide) rfl rfl, List.forall_mem_nil _⟩

open Record (idle_of_may) in
theorem KeepAliveResponse.record_idle : ∀ m ∈ Response.idle, record.Idle origin m := by
  simp only [Response.idle, List.forall_mem_cons]
  exact ⟨.inl rfl, .inl rfl, idle_of_may rfl (by decide) rfl rfl,
    idle_of_may rfl (by decide) rfl rfl, idle_of_may rfl (by decide) rfl rfl,
    List.forall_mem_nil _⟩

open Record (idle_of_may) in
theorem UnregisterResponse.record_idle : ∀ m ∈ Response.idle, record.Idle origin m := by
  simp only [Response.idle, List.forall_mem_cons]
  exact ⟨.inl rfl, .inl rfl, .inl rfl, idle_of_may rfl (by decide) rfl rfl, .inl rfl,
    List.forall_mem_nil _⟩

/-- The answer to a call is read from its document loosened, if none of the members that say nothing
    says anything to its record. -/
theorem tagged_callValue {α β : Type} {variants : List (Variant α)} {m : Method} {r : Record β}
    {g : β → α} {a : α} {content members bs : List (String × Value)}
    (hx : Decoder.variant variants m.name = .ok (.ofRecord m.name r g)) (hr : r.Steady)
    (hi : ∀ x ∈ Response.idle, r.Idle .aside x) (hcontent : "type" ∉ content.map (·.1))
    (hmembers : (callValue m content).canonical = .object members)
    (hl : Loosened ("type" :: r.fields.map (·.name)) Response.idle members bs)
    (ha : (Decoder.tagged "type" variants).ofValue origin (.object members) = .ok a) :
    (Decoder.tagged "type" variants).ofValue origin (.object bs) = .ok a := by
  obtain rfl := Value.object.inj hmembers
  exact Decoder.tagged_loosened hx hr.commutes
    (fun f hf => List.mem_cons_of_mem _ (List.mem_map_of_mem hf)) List.mem_cons_self hi (by decide)
    hl (string_mem_arrange _ hcontent) ha

namespace Response

/-- **The body of a response is read from its document loosened.** -/
theorem ofValue_loosened {r : Response} (h : ∀ a ∈ r.addresses, a.Readable)
    {members bs : List (String × Value)} (hmembers : r.toValue.canonical = .object members)
    (hl : Loosened r.declared idle members bs) : decoder.ofValue origin (.object bs) = .ok r := by
  have ha : decoder.ofValue origin (.object members) = .ok r :=
    hmembers ▸ decoder_steady origin _ r (ofValue_toValue h)
  cases r with
  | register r =>
    exact tagged_callValue rfl RegisterResponse.record_steady RegisterResponse.record_idle
      (by simp [RegisterResponse.content, Verdict.content]) hmembers hl ha
  | keepAlive r =>
    exact tagged_callValue rfl KeepAliveResponse.record_steady KeepAliveResponse.record_idle
      (by simp [KeepAliveResponse.content, Verdict.content]) hmembers hl ha
  | unregister r =>
    exact tagged_callValue rfl UnregisterResponse.record_steady UnregisterResponse.record_idle
      (by simp [UnregisterResponse.content, Verdict.content]) hmembers hl ha

/-- **Every body has a type and a status.** -/
theorem mem_of_ofValue {bs : List (String × Value)} {r : Response}
    (h : decoder.ofValue origin (.object bs) = .ok r) :
    "type" ∈ bs.map (·.1) ∧ "status" ∈ bs.map (·.1) := by
  obtain ⟨htype, x, hx, hcontent⟩ := Decoder.mem_of_tagged h
  have hothers : ((bs.filter (decide <| ·.1 ≠ "type")).map (·.1)).Sublist (bs.map (·.1)) :=
    List.filter_sublist.map _
  refine ⟨htype, hothers.subset ?_⟩
  simp only [List.mem_cons, List.not_mem_nil, or_false] at hx
  rcases hx with rfl | rfl | rfl
  · exact Variant.mem_of_content List.mem_cons_self rfl hcontent
  · exact Variant.mem_of_content List.mem_cons_self rfl hcontent
  · exact Variant.mem_of_content List.mem_cons_self rfl hcontent

end Response

/-! ## Frames -/

namespace ResponseFrame

/-- The document of a frame, with its members loosened, and those of its body.  Of its own members,
    none says nothing. -/
inductive Loosened (f : ResponseFrame) : Value → Prop where
  | intro {members bs ms : List (String × Value)}
    (hmembers : f.body.toValue.canonical = .object members)
    (hbody : Json.Loosened f.body.declared Response.idle members bs)
    (hframe : Json.Loosened (record.fields.map (·.name)) []
      [("body", .object bs), ("id", .ofNat f.id.toNat)] ms) :
    f.Loosened (.object ms)

/-- The document itself is a case. -/
theorem loosened_self (f : ResponseFrame) : f.Loosened f.toValue.canonical := by
  have hframe : f.toValue.canonical =
      .object [("body", f.body.toValue.canonical), ("id", .ofNat f.id.toNat)] := by
    have hlt : "body" < "id" := by decide
    simp [toValue, Value.ofNat, Value.canonical, canonicalMembers, arrange, insertMember, hlt]
  obtain ⟨members, hmembers⟩ : ∃ members, f.body.toValue.canonical = .object members := ⟨_, rfl⟩
  rw [hframe, hmembers]
  exact .intro hmembers .same .same

theorem ofValue_of_loosened {f : ResponseFrame} (h : ∀ a ∈ f.body.addresses, a.Readable) {v : Value}
    (hv : f.Loosened v) : ofValue v = .ok f := by
  obtain ⟨hmembers, hbody, hframe⟩ := hv
  refine Record.ofMembers_loosened record_steady.commutes (fun g hg => List.mem_map_of_mem hg)
    (List.forall_mem_nil _) hframe ?_
  rw [Record.ofMembers_next rfl (by decide) (Response.ofValue_loosened h hmembers hbody),
    Record.ofMembers_next rfl (by decide) (uint32_ofValue _)]
  rfl

/-- Every frame has a number and a body. -/
theorem mem_of_ofValue {ms : List (String × Value)} {f : ResponseFrame}
    (h : ofValue (.object ms) = .ok f) : "id" ∈ ms.map (·.1) ∧ "body" ∈ ms.map (·.1) := by
  constructor
  · exact (Record.mem_of_ofMembers List.mem_cons_self rfl h).resolve_left List.not_mem_nil
  · exact (Record.mem_of_ofMembers (List.mem_cons_of_mem _ List.mem_cons_self) rfl h).resolve_left
      List.not_mem_nil

/-- The body of a frame is read as such. -/
theorem body_of_ofValue {ms : List (String × Value)} {f : ResponseFrame} {v : Value}
    (h : ofValue (.object ms) = .ok f) (hv : ("body", v) ∈ ms) :
    ∃ r, Response.decoder.ofValue .document v = .ok r := by
  obtain ⟨set, hset⟩ := Record.ofValue_of_ofMembers rfl hv h
  obtain ⟨r, hr, -⟩ := Decoder.map_eq_ok.1 hset
  exact ⟨r, hr⟩

/-- What is read as no frame fails. -/
theorem fails_of_not_read {v : Value} (h : ∀ f, ofValue v ≠ .ok f) : ∃ e, ofValue v = .error e := by
  cases hv : ofValue v with
  | ok f => exact absurd hv (h f)
  | error e => exact ⟨e, rfl⟩

/-- **Response frames are read leniently.**  A frame in which every address is readable is read from
    its document, and from that loosened: whatever members that are not declared come in, and
    whatever members that say nothing come in or are left out.  But the number, the body, and in
    the body the type and the status must be there, whatever else there is. -/
theorem responses_lenient :
    (∀ f : ResponseFrame, f.Loosened f.toValue.canonical ∧
      ((∀ a ∈ f.body.addresses, a.Readable) → ∀ v, f.Loosened v → ofValue v = .ok f)) ∧
    (∀ ms : List (String × Value), "id" ∉ ms.map (·.1) ∨ "body" ∉ ms.map (·.1) →
      ∃ e, ofValue (.object ms) = .error e) ∧
    ∀ ms bs : List (String × Value), ("body", .object bs) ∈ ms →
      "type" ∉ bs.map (·.1) ∨ "status" ∉ bs.map (·.1) → ∃ e, ofValue (.object ms) = .error e := by
  refine ⟨fun f => ⟨f.loosened_self, fun h v hv => ofValue_of_loosened h hv⟩,
    fun ms hlacks => ?_, fun ms bs hbody hlacks => ?_⟩
  · refine fails_of_not_read fun f h => ?_
    obtain ⟨hid, hb⟩ := mem_of_ofValue h
    exact hlacks.elim (fun hn => hn hid) fun hn => hn hb
  · refine fails_of_not_read fun f h => ?_
    obtain ⟨r, hr⟩ := body_of_ofValue h hbody
    obtain ⟨htype, hstatus⟩ := Response.mem_of_ofValue hr
    exact hlacks.elim (fun hn => hn htype) fun hn => hn hstatus

/-- The answer to a heartbeat, with a leader and no members. -/
def spare : ResponseFrame where
  id := 7
  body := .keepAlive (.accept (some ⟨"::1", 9001⟩) [])

/-- Its body without the members, with an error that is none, and with a session, which such an
    answer does not have. -/
def spareBody : List (String × Value) :=
  [("session", .string "none"), ("error", .null), ("leader", .string "[::1]:9001"),
    ("status", .string "OK"), ("type", .string "keep_alive")]

/-- A document of it, with a member more. -/
def spareDocument : List (String × Value) :=
  [("trace", .array [.null, .object []]), ("body", .object spareBody), ("id", .ofNat 7)]

theorem spare_loosened : spare.Loosened (.object spareDocument) := by
  have hmembers : spare.body.toValue.canonical = .object [("leader", .string "[::1]:9001"),
      ("members", .array []), ("status", .string "OK"), ("type", .string "keep_alive")] := rfl
  have hfront : Json.Loosened spare.body.declared Response.idle _
      [("members", .array []), ("leader", .string "[::1]:9001"), ("status", .string "OK"),
        ("type", .string "keep_alive")] := .reordered .same (.swap _ _ _)
  have hleft := hfront.left (by simp [Response.idle])
  have hput := hleft.put (m := ("error", .null)) (by simp [Response.idle]) (by decide)
  exact .intro hmembers (hput.stranger _ (by decide)) (.stranger _ .same (by decide))

theorem responses_lenient_spare :
    (∀ a ∈ spare.body.addresses, a.Readable) ∧ ofValue (.object spareDocument) = .ok spare ∧
      (∃ e, ofValue (.object (spareDocument.filter (·.1 ≠ "id"))) = .error e) ∧
      ∃ e, ofValue (.object [("id", .ofNat 7),
        ("body", .object (spareBody.filter (·.1 ≠ "status")))]) = .error e := by
  have hreadable : ∀ a ∈ spare.body.addresses, a.Readable := by decide
  obtain ⟨hreads, hframe, hbody⟩ := responses_lenient
  refine ⟨hreadable, (hreads spare).2 hreadable _ spare_loosened, hframe _ (.inl (by decide)), ?_⟩
  exact hbody _ _ (List.mem_cons_of_mem _ List.mem_cons_self) (.inr (by decide))

end ResponseFrame

end ClusterSession
