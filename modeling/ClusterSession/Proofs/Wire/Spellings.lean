/-
  ClusterSession: the texts that are addresses, and what becomes of them.

  * `Address.Spells`: a text spells an address as a host, a colon and a port; how the text is
    read is not mentioned.
  * `splitLast_eq_some_iff`, `unbracket_eq_bare`, `parsePort_eq_some_iff`: what the parts of a
    text are read as.
  * `parse_iff_spells`: a text is read as the address that it spells, and refused if it spells
    none.
  * `Address.DoublyWrapped`: a host without colon stands in two pairs of brackets.
  * `accepted_survives_iff`: an address that was read is read back from its own text, unless
    it was read from a doubly wrapped one.
-/
import ClusterSession.Proofs.Wire.Frames

namespace ClusterSession

open Json

namespace Address

/-! ## Spelling an address -/

/-- The host that stands before the colon; one pair of brackets around it does not count. -/
def bare (front : List Char) : List Char :=
  if 2 ≤ front.length ∧ front.head? = some '[' ∧ front.getLast? = some ']' then
    front.tail.dropLast
  else front

/-- The text is a number: at least one digit, after at most one plus sign. -/
def Numeral (cs : List Char) (n : Nat) : Prop :=
  ∃ digits, (cs = digits ∨ cs = '+' :: digits) ∧ digits ≠ [] ∧
    (∀ d ∈ digits, '0' ≤ d ∧ d ≤ '9') ∧ Nat.ofDigitChars 10 digits 0 = n

/-- The text is a host, a colon and a port. -/
def Spells (s : String) (a : Address) : Prop :=
  ∃ front back, s.toList = front ++ ':' :: back ∧ ':' ∉ back ∧ Numeral back a.port.toNat ∧
    a.host.toList = bare front ∧ a.host ≠ ""

/-! ## The parts of a text -/

theorem mem_of_splitLast_eq_none {c : Char} {cs : List Char} (h : splitLast c cs = none) :
    c ∉ cs := by
  induction cs with
  | nil => exact List.not_mem_nil
  | cons x xs ih =>
    rw [splitLast] at h
    split at h
    · cases h
    · next hxs =>
      split at h
      · cases h
      · next hx => exact fun hm => (List.mem_cons.1 hm).elim (fun he => hx he.symm) (ih hxs)

/-- A text is split where the character stands last, and nowhere else. -/
theorem splitLast_eq_some_iff {c : Char} {cs front back : List Char} :
    splitLast c cs = some (front, back) ↔ cs = front ++ c :: back ∧ c ∉ back := by
  refine ⟨fun h => ?_, fun ⟨he, hback⟩ => he ▸ splitLast_append hback front⟩
  induction cs generalizing front with
  | nil => cases h
  | cons x xs ih =>
    rw [splitLast] at h
    split at h
    · next front' back' hxs =>
      cases h
      obtain ⟨he, hback⟩ := ih hxs
      exact ⟨congrArg (x :: ·) he, hback⟩
    · next hxs =>
      split at h
      · next hx =>
        cases h
        exact ⟨hx ▸ rfl, mem_of_splitLast_eq_none hxs⟩
      · cases h

/-- A host that stands in brackets is bare without them. -/
theorem bare_wrapped (inner : List Char) : bare ('[' :: (inner ++ [']'])) = inner := by
  have hlast : ('[' :: (inner ++ [']'])).getLast? = some ']' :=
    List.getLast?_eq_some_iff.2 ⟨'[' :: inner, rfl⟩
  have hlength : 2 ≤ ('[' :: (inner ++ [']'])).length := by simp
  rw [bare, if_pos ⟨hlength, rfl, hlast⟩, List.tail_cons, List.dropLast_concat]

/-- Any other host is bare. -/
theorem bare_of_not_wrapped {front : List Char} (h : ∀ inner, front ≠ '[' :: (inner ++ [']'])) :
    bare front = front := by
  refine if_neg fun ⟨hlength, hfirst, hlast⟩ => ?_
  obtain ⟨rest, rfl⟩ := List.head?_eq_some_iff.1 hfirst
  have hne : rest ≠ [] := by
    rintro rfl
    simp at hlength
  rw [List.getLast?_cons_of_ne_nil hne] at hlast
  obtain ⟨inner, rfl⟩ := List.getLast?_eq_some_iff.1 hlast
  exact h inner rfl

theorem unbracket_eq_bare (front : List Char) : unbracket front = bare front := by
  by_cases h : ∃ inner, front = '[' :: (inner ++ [']'])
  · obtain ⟨inner, rfl⟩ := h
    rw [bare_wrapped, unbracket, if_pos List.getLast?_concat, List.dropLast_concat]
  · rw [unbracket_eq_self.2 (not_exists.1 h), bare_of_not_wrapped (not_exists.1 h)]

theorem isDigit_iff {c : Char} : c.isDigit = true ↔ '0' ≤ c ∧ c ≤ '9' := by
  simp [Char.isDigit, Char.le_def]

theorem decimal?_eq_some_iff {ds : List Char} {n : Nat} :
    decimal? ds = some n ↔
      ds ≠ [] ∧ (∀ d ∈ ds, '0' ≤ d ∧ d ≤ '9') ∧ Nat.ofDigitChars 10 ds 0 = n := by
  simp only [decimal?, Option.ite_none_right_eq_some, Option.some.injEq, List.all_eq_true,
    isDigit_iff, and_assoc]

/-- A port is read from a number that fits. -/
theorem parsePort_eq_some_iff {cs : List Char} {port : UInt16} :
    parsePort cs = some port ↔ Numeral cs port.toNat := by
  constructor
  · intro h
    unfold parsePort at h
    dsimp only at h
    split at h
    · next n hn =>
      obtain ⟨hne, hdigits, hvalue⟩ := decimal?_eq_some_iff.1 hn
      split at h
      · next hlt =>
        cases h
        refine ⟨_, ?_, hne, hdigits, hvalue.trans (UInt16.toNat_ofNat_of_lt hlt).symm⟩
        split
        · exact .inr rfl
        · exact .inl rfl
      · cases h
    · cases h
  · rintro ⟨ds, hcs, hne, hdigits, hvalue⟩
    have hd := decimal?_eq_some_iff.2 ⟨hne, hdigits, hvalue⟩
    rcases hcs with rfl | rfl
    · have hsign : ∀ ds, cs ≠ '+' :: ds := by
        rintro ds rfl
        exact absurd (hdigits '+' List.mem_cons_self) (by decide)
      rw [parsePort_unsigned hsign hd port.toNat_lt_size, UInt16.ofNat_toNat]
    · simp only [parsePort, hd, if_pos port.toNat_lt_size, UInt16.ofNat_toNat]

/-! ## The whole text -/

theorem ofChars?_eq_some_iff {cs : List Char} {a : Address} :
    ofChars? cs = some a ↔ ∃ front back, cs = front ++ ':' :: back ∧ ':' ∉ back ∧
      Numeral back a.port.toNat ∧ a.host.toList = bare front ∧ a.host ≠ "" := by
  constructor
  · intro h
    unfold ofChars? at h
    split at h
    · cases h
    · next front back hsplit =>
      obtain ⟨hcs, hback⟩ := splitLast_eq_some_iff.1 hsplit
      dsimp only at h
      split at h
      · cases h
      · next hne =>
        obtain ⟨port, hport, rfl⟩ := Option.map_eq_some_iff.1 h
        refine ⟨front, back, hcs, hback, parsePort_eq_some_iff.1 hport, ?_, ?_⟩
        · rw [String.toList_ofList, unbracket_eq_bare]
        · exact fun he => hne (String.ofList_eq_empty_iff.1 he)
  · rintro ⟨front, back, hcs, hback, hport, hhost, hne⟩
    unfold ofChars?
    rw [splitLast_eq_some_iff.2 ⟨hcs, hback⟩]
    dsimp only
    rw [unbracket_eq_bare, ← hhost, if_neg (mt String.toList_eq_nil_iff.1 hne),
      parsePort_eq_some_iff.2 hport, String.ofList_toList]
    rfl

theorem parse_eq_ok_iff {s : String} {a : Address} :
    parse s = .ok a ↔ ofChars? s.toList = some a := by
  unfold parse
  split
  · next b hb => rw [hb, Except.ok.injEq, Option.some.injEq]
  · next hnone => exact iff_of_false nofun (hnone ▸ nofun)

theorem parse_eq_error_iff {s : String} {e : InvalidAddress} :
    parse s = .error e ↔ e.text = s ∧ ∀ a, parse s ≠ .ok a := by
  unfold parse
  split
  · next b hb => exact iff_of_false nofun fun h => h.2 b rfl
  · next hnone =>
    rw [Except.error.injEq]
    exact ⟨fun h => ⟨h ▸ rfl, nofun⟩, fun h => h.1 ▸ rfl⟩

/-- **A text is read as the address that it spells.**  It spells at most one, with the host in front
    of the last colon and the port behind it; a text that spells none is refused, and the refusal
    carries it unchanged. -/
theorem parse_iff_spells (s : String) :
    (∀ a, parse s = .ok a ↔ Spells s a) ∧
      ∀ e, parse s = .error e ↔ e.text = s ∧ ∀ a, ¬Spells s a := by
  have hok : ∀ a, parse s = .ok a ↔ Spells s a := fun a =>
    parse_eq_ok_iff.trans ofChars?_eq_some_iff
  refine ⟨hok, fun e => parse_eq_error_iff.trans (and_congr_right fun _ => ?_)⟩
  exact forall_congr' fun a => not_congr (hok a)

/-! ## The text of an address that was read -/

/-- The host has no colon, and stands in two pairs of brackets. -/
def DoublyWrapped (s : String) : Prop :=
  ∃ host port, ':' ∉ host ∧ ':' ∉ port ∧
    s.toList = '[' :: '[' :: (host ++ ']' :: ']' :: ':' :: port)

theorem ofChars?_display (a : Address) :
    ofChars? a.display.toList =
      if bare (hostChars a.host.toList) = [] then none
      else some { a with host := String.ofList (bare (hostChars a.host.toList)) } := by
  have hchars : a.display.toList = hostChars a.host.toList ++ ':' :: Nat.toDigits 10 a.port.toNat :=
    String.toList_ofList
  unfold ofChars?
  rw [hchars, splitLast_append (not_mem_toDigits rfl _)]
  dsimp only
  rw [unbracket_eq_bare, parsePort_toDigits]
  rfl

/-- What is read from the text of an address. -/
theorem parse_display_eq (a : Address) :
    parse a.display =
      if bare (hostChars a.host.toList) = [] then .error { text := a.display }
      else .ok { a with host := String.ofList (bare (hostChars a.host.toList)) } := by
  rw [parse, ofChars?_display]
  by_cases h : bare (hostChars a.host.toList) = []
  · rw [if_pos h, if_pos h]
  · rw [if_neg h, if_neg h]

/-- Only a readable address is read back from its text. -/
theorem parse_display_iff {a : Address} : parse a.display = .ok a ↔ a.Readable := by
  refine ⟨fun h => ?_, parse_display⟩
  rw [parse_display_eq] at h
  split at h
  · cases h
  · next hne =>
    have hhost : bare (hostChars a.host.toList) = a.host.toList := by
      have he : String.ofList (bare (hostChars a.host.toList)) = a.host :=
        congrArg Address.host (Except.ok.inj h)
      rw [← String.toList_ofList (l := bare (hostChars a.host.toList)), he]
    rw [hhost] at hne
    refine readable_iff.2 ⟨mt String.toList_eq_nil_iff.2 hne, fun hcolon => ?_⟩
    rwa [hostChars, if_neg hcolon, ← unbracket_eq_bare] at hhost

/-- From a doubly wrapped text, the host is read with the inner brackets. -/
theorem Spells.host_of_doublyWrapped {s : String} {a : Address} (h : Spells s a)
    {host port : List Char} (hport : ':' ∉ port)
    (hs : s.toList = '[' :: '[' :: (host ++ ']' :: ']' :: ':' :: port)) :
    a.host.toList = '[' :: (host ++ [']']) := by
  obtain ⟨front, back, he, hback, -, hhost, -⟩ := h
  have hfront : s.toList = ('[' :: ('[' :: (host ++ [']']) ++ [']'])) ++ ':' :: port := by
    rw [hs]
    simp
  -- the last colon is where it is
  have hsplit := (splitLast_eq_some_iff.2 ⟨he, hback⟩).symm.trans
    (splitLast_eq_some_iff.2 ⟨hfront, hport⟩)
  rw [hhost, (Prod.mk.inj (Option.some.inj hsplit)).1, bare_wrapped]

/-- **Whatever is read is readable, unless it was doubly wrapped.** -/
theorem Spells.readable_iff {s : String} {a : Address} (h : Spells s a) :
    a.Readable ↔ ¬DoublyWrapped s := by
  constructor
  · rintro hr ⟨host, port, hcolon, hport, hs⟩
    have hhost := h.host_of_doublyWrapped hport hs
    exact hr.unwrapped (by simpa [hhost] using hcolon) host hhost
  · intro hw
    obtain ⟨front, back, hs, hback, -, hhost, hne⟩ := h
    refine ⟨hne, fun hcolon inner hinner => hw ?_⟩
    by_cases hf : ∃ outer, front = '[' :: (outer ++ [']'])
    · obtain ⟨outer, rfl⟩ := hf
      rw [bare_wrapped, hinner] at hhost
      refine ⟨inner, back, fun hm => hcolon (by simp [hinner, hm]), hback, ?_⟩
      rw [hs, ← hhost]
      simp
    · rw [bare_of_not_wrapped (not_exists.1 hf), hinner] at hhost
      exact absurd ⟨inner, hhost.symm⟩ hf

/-! ## Addresses in documents -/

section
variable {origin : Origin} {depth : Nat} {a : Address}

theorem refined_iff {s : String} :
    (match parse s with
      | .ok a => .ok a
      | .error e => .error (.refused e.message) : Except Mismatch Address) = .ok a ↔
    parse s = .ok a := by
  cases parse s with
  | ok b => rw [Except.ok.injEq, Except.ok.injEq]
  | error e => exact iff_of_false nofun nofun

/-- An address is read from a document that is its text. -/
theorem decoder_ofValue_iff {v : Value} :
    decoder.ofValue origin v = .ok a ↔ ∃ s, v = .string s ∧ parse s = .ok a := by
  refine bind_eq_ok.trans (exists_congr fun s => and_congr ?_ refined_iff)
  cases v with
  | string s' =>
    show Except.ok s' = .ok s ↔ _
    rw [Except.ok.injEq, Value.string.injEq]
  | _ => exact iff_of_false nofun nofun

/-- An address is read from a text that begins with the string of its text. -/
theorem decoder_read_iff {cs rest : List Char} :
    decoder.read depth cs = .ok (a, rest) ↔
      ∃ s, Decoder.readText cs = .ok (s, rest) ∧ parse s = .ok a := by
  refine bind_eq_ok.trans ⟨?_, ?_⟩
  · rintro ⟨⟨s, rest'⟩, hread, h⟩
    obtain ⟨b, hb, he⟩ := bind_eq_ok.1 h
    cases he
    exact ⟨s, hread, refined_iff.1 (unfit_eq_ok.1 hb)⟩
  · rintro ⟨s, hread, hs⟩
    exact ⟨(s, rest), hread, bind_eq_ok.2 ⟨a, unfit_eq_ok.2 (refined_iff.2 hs), rfl⟩⟩

end

/-- **An address that was read is read back from its own text, unless it was doubly wrapped.**  It
    is the same for texts, for documents, and for texts of documents, where an address stands as
    a string.  A doubly wrapped host is read with the inner brackets; they are taken for outer ones
    when its text is read, and dropped. -/
theorem accepted_survives_iff (a : Address) :
    (∀ s, parse s = .ok a →
      (parse a.display = .ok a ↔ ¬DoublyWrapped s) ∧
      (DoublyWrapped s → ∃ host, a.host.toList = '[' :: (host ++ [']']) ∧
        parse a.display =
          if host = [] then .error { text := a.display }
          else .ok { a with host := String.ofList host })) ∧
    (∀ origin v, decoder.ofValue origin v = .ok a →
      ∃ s, v = .string s ∧ parse s = .ok a ∧
        (decoder.ofValue origin a.toValue = .ok a ↔ ¬DoublyWrapped s)) ∧
    ∀ depth cs rest, decoder.read depth cs = .ok (a, rest) →
      ∃ s, Decoder.readText cs = .ok (s, rest) ∧ parse s = .ok a ∧
        (decoder.read depth (a.toValue.chars ++ rest) = .ok (a, rest) ↔ ¬DoublyWrapped s) := by
  have hspells : ∀ {s}, parse s = .ok a → Spells s a := fun h =>
    ofChars?_eq_some_iff.1 (parse_eq_ok_iff.1 h)
  have hsurvives : ∀ {s}, parse s = .ok a → (parse a.display = .ok a ↔ ¬DoublyWrapped s) :=
    fun h => parse_display_iff.trans (hspells h).readable_iff
  refine ⟨fun s h => ⟨hsurvives h, ?_⟩, fun origin v h => ?_, fun depth cs rest h => ?_⟩
  · rintro ⟨host, port, hcolon, hport, hs⟩
    have hhost := (hspells h).host_of_doublyWrapped hport hs
    have hchars : hostChars a.host.toList = '[' :: (host ++ [']']) := by
      rw [hhost, hostChars, if_neg (by simpa using hcolon)]
    refine ⟨host, hhost, ?_⟩
    rw [parse_display_eq, hchars, bare_wrapped]
  · obtain ⟨s, hv, hs⟩ := decoder_ofValue_iff.1 h
    refine ⟨s, hv, hs, Iff.trans ?_ (hsurvives hs)⟩
    rw [decoder_ofValue_iff]
    exact ⟨fun ⟨t, ht, h⟩ => Value.string.inj ht ▸ h, fun h => ⟨_, rfl, h⟩⟩
  · obtain ⟨s, hread, hs⟩ := decoder_read_iff.1 h
    refine ⟨s, hread, hs, Iff.trans ?_ (hsurvives hs)⟩
    have htext : Decoder.readText (a.toValue.chars ++ rest) = .ok (a.display, rest) :=
      Decoder.readText_string a.display rest
    rw [decoder_read_iff, htext]
    exact ⟨fun ⟨t, ht, h⟩ => (Prod.mk.inj (Except.ok.inj ht)).1 ▸ h, fun h => ⟨_, rfl, h⟩⟩

/-- An IPv6 address in two pairs of brackets has colons. -/
theorem accepted_survives_iff_nested :
    let s := "[[::1]]:+080"
    let a : Address := ⟨"[::1]", 80⟩
    parse s = .ok a ∧ ¬DoublyWrapped s ∧ a.display = "[[::1]]:80" ∧ parse a.display = .ok a ∧
      decoder.ofValue .aside (.string s) = .ok a ∧ decoder.ofValue .aside a.toValue = .ok a ∧
      decoder.read 0 ((Value.string s).chars ++ [',']) = .ok (a, [',']) ∧
      decoder.read 0 (a.toValue.chars ++ [',']) = .ok (a, [',']) := by
  intro s a
  have hs : parse s = .ok a := by decide +kernel
  have hw : ¬DoublyWrapped s := by
    rintro ⟨host, port, hcolon, -, htext⟩
    have htext' : s.toList = '[' :: '[' :: ':' :: ":1]]:+080".toList := by decide +kernel
    rw [htext'] at htext
    cases host with
    | nil => cases htext
    | cons c rest =>
      have hc : ':' = c := (List.cons.inj (List.cons.inj (List.cons.inj htext).2).2).1
      exact hcolon (hc ▸ List.mem_cons_self)
  have hwire : decoder.ofValue .aside (.string s) = .ok a := decoder_ofValue_iff.2 ⟨s, rfl, hs⟩
  have hread : decoder.read 0 ((Value.string s).chars ++ [',']) = .ok (a, [',']) :=
    decoder_read_iff.2 ⟨s, Decoder.readText_string s _, hs⟩
  obtain ⟨hsurvives, hdocument, htext⟩ := accepted_survives_iff a
  obtain ⟨s', he, -, hdocument⟩ := hdocument _ _ hwire
  obtain rfl : s = s' := Value.string.inj he
  obtain ⟨s', he, -, htext⟩ := htext _ _ _ hread
  obtain rfl : s = s' :=
    (Prod.mk.inj (Except.ok.inj ((Decoder.readText_string s _).symm.trans he))).1
  exact ⟨hs, hw, by decide +kernel, (hsurvives s hs).1.2 hw, hwire, hdocument.2 hw, hread,
    htext.2 hw⟩

/-- **A doubly wrapped host without colon is lost**: its text is read as another address, or
    refused. -/
theorem doubly_wrapped_lost :
    parse "[[a]]:80" = .ok ⟨"[a]", 80⟩ ∧
      parse (display ⟨"[a]", 80⟩) = .ok ⟨"a", 80⟩ ∧
      parse "[[]]:80" = .ok ⟨"[]", 80⟩ ∧
      parse (display ⟨"[]", 80⟩) = .error { text := "[]:80" } := by
  decide +kernel

end Address

end ClusterSession
