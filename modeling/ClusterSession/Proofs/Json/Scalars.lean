/-
  ClusterSession: strings and numbers are read as they are written.

  * `Stops`: what may follow a value, so that no number goes on.
  * `readString_quoted`, `skipString_quoted`: a literal is read up to its closing mark,
    whatever characters it is made of.
  * `readNumber_natural`, `skipNumber_natural`: a natural number that fits 64 bits is
    exact.
-/
import ClusterSession.Json.Reader

namespace ClusterSession.Json

/-- Nothing follows, or a mark that ends an item or a member. -/
def Stops : List Char → Prop
  | [] => True
  | c :: _ => c = ',' ∨ c = ']' ∨ c = '}'

/-! ## Strings -/

theorem hexValue?_hexDigit (n : Fin 16) : hexValue? (hexDigit n) = some n.val := by
  revert n
  decide

/-- The code of a control character is read back. -/
theorem readHex_control {n : Nat} (hn : n < 0x20) (rest : List Char) :
    readHex ('0' :: '0' :: hexDigit (n / 16) :: hexDigit (n % 16) :: rest) = .ok (n, rest) := by
  have hzero : hexValue? '0' = some 0 := by decide
  have hhigh := hexValue?_hexDigit ⟨n / 16, by omega⟩
  have hlow := hexValue?_hexDigit ⟨n % 16, by omega⟩
  dsimp only at hhigh hlow
  have hbytes :
      ¬byteCount (List.take 4 ('0' :: '0' :: hexDigit (n / 16) :: hexDigit (n % 16) :: rest)) < 4 := by
    simp only [List.take_succ_cons, List.take_zero, byteCount, List.foldr]
    have := Char.utf8Size_pos '0'
    have := Char.utf8Size_pos (hexDigit (n / 16))
    have := Char.utf8Size_pos (hexDigit (n % 16))
    omega
  rw [readHex, if_neg hbytes]
  simp only [hzero, hhigh, hlow]
  congr 2
  omega

theorem readCode_control {c : Char} (hc : c.toNat < 0x20) (rest : List Char) :
    readCode ('0' :: '0' :: hexDigit (c.toNat / 16) :: hexDigit (c.toNat % 16) :: rest) =
      .ok (c, rest) := by
  have htrailing : isTrailing c.toNat = false := by
    simp only [isTrailing, Bool.and_eq_false_iff, decide_eq_false_iff_not]
    omega
  have hleading : isLeading c.toNat = false := by
    simp only [isLeading, Bool.and_eq_false_iff, decide_eq_false_iff_not]
    omega
  rw [readCode, readHex_control hc]
  show (if isTrailing c.toNat then _ else _) = _
  rw [htrailing, hleading, Char.ofNat_toNat]
  rfl

/-- How a character is written. -/
theorem escape_cases (c : Char) :
    (∃ e, escape c = ['\x5c', e] ∧ e ≠ 'u' ∧ unescape? e = some c) ∨
    (c.toNat < 0x20 ∧
      escape c = ['\x5c', 'u', '0', '0', hexDigit (c.toNat / 16), hexDigit (c.toNat % 16)]) ∨
    (escape c = [c] ∧ c ≠ '\x22' ∧ c ≠ '\x5c' ∧ ¬c.toNat < 0x20) := by
  have hletter : ∀ e, e ≠ 'u' → unescape? e = some c → escape c = ['\x5c', e] →
      ∃ e, escape c = ['\x5c', e] ∧ e ≠ 'u' ∧ unescape? e = some c :=
    fun e hu hc he => ⟨e, he, hu, hc⟩
  by_cases hmark : c = '\x22'
  · exact .inl (hletter '\x22' (by decide) (by subst hmark; rfl) (by subst hmark; rfl))
  by_cases hsolidus : c = '\x5c'
  · exact .inl (hletter '\x5c' (by decide) (by subst hsolidus; rfl) (by subst hsolidus; rfl))
  by_cases hb : c = '\x08'
  · exact .inl (hletter 'b' (by decide) (by subst hb; rfl) (by subst hb; rfl))
  by_cases hf : c = '\x0c'
  · exact .inl (hletter 'f' (by decide) (by subst hf; rfl) (by subst hf; rfl))
  by_cases hn : c = '\n'
  · exact .inl (hletter 'n' (by decide) (by subst hn; rfl) (by subst hn; rfl))
  by_cases hr : c = '\r'
  · exact .inl (hletter 'r' (by decide) (by subst hr; rfl) (by subst hr; rfl))
  by_cases ht : c = '\t'
  · exact .inl (hletter 't' (by decide) (by subst ht; rfl) (by subst ht; rfl))
  unfold escape
  rw [if_neg hmark, if_neg hsolidus, if_neg hb, if_neg hf, if_neg hn, if_neg hr, if_neg ht]
  by_cases hc : c.toNat < 0x20
  · exact .inr (.inl ⟨hc, if_pos hc⟩)
  · exact .inr (.inr ⟨if_neg hc, hmark, hsolidus, hc⟩)

/-- A letter after a reverse solidus is read. -/
theorem readEscape_letter {c e : Char} (hu : e ≠ 'u') (he : unescape? e = some c)
    (rest : List Char) : readEscape (e :: rest) = .ok (c, rest) := by
  rw [readEscape.eq_3 _ _ hu, he]

/-- A character that was written is read back. -/
theorem readChars_escape (c : Char) (fuel : Nat) (cs : List Char) :
    readChars (fuel + 1) (escape c ++ cs) =
      readChars fuel cs >>= fun p => .ok (c :: p.1, p.2) := by
  rcases escape_cases c with ⟨e, he, hu, hc⟩ | ⟨hc, he⟩ | ⟨he, hmark, hsolidus, hc⟩
  · rw [he]
    show readEscape (e :: cs) >>= _ = _
    rw [readEscape_letter hu hc]
    rfl
  · rw [he]
    show readCode ('0' :: '0' :: hexDigit (c.toNat / 16) :: hexDigit (c.toNat % 16) :: cs) >>= _ = _
    rw [readCode_control hc]
    rfl
  · rw [he, List.singleton_append, readChars, if_neg hmark, if_neg hsolidus, if_neg hc]

theorem readChars_escaped {cs : List Char} {fuel : Nat} (h : cs.length < fuel) (rest : List Char) :
    readChars fuel (cs.flatMap escape ++ '\x22' :: rest) = .ok (cs, rest) := by
  induction cs generalizing fuel with
  | nil =>
    obtain ⟨fuel, rfl⟩ := Nat.exists_eq_add_one_of_ne_zero (Nat.ne_zero_of_lt h)
    rfl
  | cons c cs ih =>
    obtain ⟨fuel, rfl⟩ := Nat.exists_eq_add_one_of_ne_zero (Nat.ne_zero_of_lt h)
    rw [List.flatMap_cons, List.append_assoc, readChars_escape,
      ih (Nat.lt_of_succ_lt_succ h)]
    rfl

theorem length_flatMap_escape (cs : List Char) : cs.length ≤ (cs.flatMap escape).length := by
  induction cs with
  | nil => exact Nat.le_refl 0
  | cons c cs ih =>
    have hc : 1 ≤ (escape c).length := by
      rcases escape_cases c with ⟨e, he, -⟩ | ⟨-, he⟩ | ⟨he, -⟩ <;> rw [he] <;> simp
    rw [List.flatMap_cons, List.length_append, List.length_cons]
    omega

/-- The length of the text is fuel enough for a literal at its front. -/
theorem length_lt_quoted (s : String) (rest : List Char) :
    s.toList.length < (s.toList.flatMap escape ++ '\x22' :: rest).length := by
  have := length_flatMap_escape s.toList
  rw [List.length_append, List.length_cons]
  omega

/-- **A literal is read up to its closing mark.** -/
theorem readString_quoted (s : String) (rest : List Char) :
    readString (s.toList.flatMap escape ++ '\x22' :: rest) = .ok (s, rest) := by
  rw [readString, readChars_escaped (length_lt_quoted s rest)]
  show Except.ok (String.ofList s.toList, rest) = _
  rw [String.ofList_toList]

/-- A character that was written is passed over. -/
theorem skipChars_escape (c : Char) (fuel : Nat) (cs : List Char) :
    skipChars (fuel + 1) (escape c ++ cs) = skipChars fuel cs := by
  rcases escape_cases c with ⟨e, he, hu, hc⟩ | ⟨hc, he⟩ | ⟨he, hmark, hsolidus, hc⟩
  · rw [he]
    show skipEscape (e :: cs) >>= _ = _
    rw [skipEscape.eq_3 _ _ hu, hc]
    rfl
  · rw [he]
    show skipEscape ('u' :: '0' :: '0' :: hexDigit (c.toNat / 16) :: hexDigit (c.toNat % 16) :: cs)
      >>= _ = _
    rw [skipEscape, readHex_control hc]
    rfl
  · rw [he, List.singleton_append, skipChars, if_neg hmark, if_neg hsolidus, if_neg hc]

theorem skipChars_escaped {cs : List Char} {fuel : Nat} (h : cs.length < fuel) (rest : List Char) :
    skipChars fuel (cs.flatMap escape ++ '\x22' :: rest) = .ok rest := by
  induction cs generalizing fuel with
  | nil =>
    obtain ⟨fuel, rfl⟩ := Nat.exists_eq_add_one_of_ne_zero (Nat.ne_zero_of_lt h)
    rfl
  | cons c cs ih =>
    obtain ⟨fuel, rfl⟩ := Nat.exists_eq_add_one_of_ne_zero (Nat.ne_zero_of_lt h)
    rw [List.flatMap_cons, List.append_assoc, skipChars_escape, ih (Nat.lt_of_succ_lt_succ h)]

/-- **A literal is passed over up to its closing mark.** -/
theorem skipString_quoted (s : String) (rest : List Char) :
    skipString (s.toList.flatMap escape ++ '\x22' :: rest) = .ok rest :=
  skipChars_escaped (length_lt_quoted s rest) rest

/-! ## Numbers -/

theorem Stops.not_isDigit {c : Char} {rest : List Char} (h : Stops (c :: rest)) :
    c.isDigit = false := by
  rcases h with rfl | rfl | rfl <;> rfl

/-- The digits end where the text stops. -/
theorem digitRun_append {ds rest : List Char} (hd : ∀ c ∈ ds, c.isDigit = true) (h : Stops rest) :
    digitRun (ds ++ rest) = (ds, rest) := by
  have hnone : rest.takeWhile Char.isDigit = [] ∧ rest.dropWhile Char.isDigit = rest := by
    cases rest with
    | nil => exact ⟨rfl, rfl⟩
    | cons c rest => simp [h.not_isDigit]
  rw [digitRun, List.takeWhile_append_of_pos hd, List.dropWhile_append_of_pos hd, hnone.1, hnone.2,
    List.append_nil]

/-- Digits whose value fits are gathered. -/
theorem gather_eq {ds : List Char} {n : Nat} (h : Nat.ofDigitChars 10 ds n < UInt64.size) :
    gather n ds = (Nat.ofDigitChars 10 ds n, []) := by
  induction ds generalizing n with
  | nil => rfl
  | cons d ds ih =>
    rw [Nat.ofDigitChars_cons] at h ⊢
    have hstep : 10 * n + (d.toNat - '0'.toNat) = n * 10 + digitValue d := by
      rw [Nat.mul_comm]
      rfl
    rw [hstep] at h ⊢
    have hlt : n * 10 + digitValue d < UInt64.size := by
      rw [Nat.ofDigitChars_eq_ofDigitChars_zero] at h
      have hpow : 0 < 10 ^ ds.length := Nat.pow_pos (by decide)
      have := Nat.le_mul_of_pos_left (n * 10 + digitValue d) hpow
      omega
    have hgather : gather n (d :: ds) = if n * 10 + digitValue d < UInt64.size
        then gather (n * 10 + digitValue d) ds else (n, d :: ds) := rfl
    rw [hgather, if_pos hlt, ih h]

theorem isDigit_of_mem_toDigits {n : Nat} {c : Char} (h : c ∈ Nat.toDigits 10 n) :
    c.isDigit = true :=
  Nat.isDigit_of_mem_toDigits (by decide) (by decide) h

theorem ofDigitChars_toDigits (n : Nat) : Nat.ofDigitChars 10 (Nat.toDigits 10 n) 0 = n :=
  Nat.ofDigitChars_toDigits (by decide) (by decide)

/-- Only the number zero begins with the digit zero. -/
theorem toDigits_ne_zero_cons (n : Nat) (d : Char) (ds : List Char) :
    Nat.toDigits 10 n ≠ '0' :: d :: ds := by
  induction n using Nat.strongRecOn generalizing d ds with
  | _ n ih =>
    intro h
    by_cases hn : n < 10
    · rw [Nat.toDigits_of_lt_base hn] at h
      exact List.cons_ne_nil _ _ (List.cons.inj h).2.symm
    · rw [Nat.toDigits_of_base_le (by decide) (Nat.not_lt.1 hn)] at h
      cases hd : Nat.toDigits 10 (n / 10) with
      | nil => exact absurd hd Nat.toDigits_ne_nil
      | cons x xs =>
        rw [hd] at h
        cases xs with
        | cons y ys =>
          obtain ⟨rfl, -⟩ := List.cons.inj h
          exact ih (n / 10) (by omega) y ys hd
        | nil =>
          obtain ⟨rfl, -⟩ := List.cons.inj h
          have hzero := ofDigitChars_toDigits (n / 10)
          rw [hd] at hzero
          have : Nat.ofDigitChars 10 ['0'] 0 = 0 := rfl
          omega

/-- The digits of a number, and what follows them. -/
theorem digitRun_toDigits (n : Nat) {rest : List Char} (h : Stops rest) :
    digitRun (Nat.toDigits 10 n ++ rest) = (Nat.toDigits 10 n, rest) :=
  digitRun_append (fun _ => isDigit_of_mem_toDigits) h

/-- Nothing follows the digits of a natural number. -/
theorem readTail_natural (n : Nat) {rest : List Char} (h : Stops rest) :
    readTail true n [] rest = .ok (.natural n, rest) := by
  cases rest with
  | nil => rfl
  | cons c rest => rcases h with rfl | rfl | rfl <;> rfl

/-- **A natural number that fits 64 bits is exact.** -/
theorem readNumber_natural {n : Nat} (hn : n < UInt64.size) {rest : List Char} (h : Stops rest) :
    readNumber true (Nat.toDigits 10 n ++ rest) = .ok (.natural n, rest) := by
  have hgather : gather 0 (Nat.toDigits 10 n) = (Nat.ofDigitChars 10 (Nat.toDigits 10 n) 0, []) :=
    gather_eq (by rwa [ofDigitChars_toDigits])
  rw [ofDigitChars_toDigits] at hgather
  rw [readNumber, digitRun_toDigits n h]
  split
  · next he => exact absurd (congrArg Prod.fst he) Nat.toDigits_ne_nil
  · next he => exact absurd (congrArg Prod.fst he) Nat.toDigits_ne_nil
  · next he => exact absurd (congrArg Prod.fst he) (toDigits_ne_zero_cons _ _ _)
  · next he =>
    obtain ⟨rfl, rfl⟩ := Prod.mk.inj he
    rw [hgather]
    exact readTail_natural n h

/-- A natural number is passed over. -/
theorem skipNumber_natural (n : Nat) {rest : List Char} (h : Stops rest) :
    skipNumber (Nat.toDigits 10 n ++ rest) = .ok rest := by
  rw [skipNumber, digitRun_toDigits n h]
  split
  · next he => exact absurd (congrArg Prod.fst he) Nat.toDigits_ne_nil
  · next he => exact absurd (congrArg Prod.fst he) (toDigits_ne_zero_cons _ _ _)
  · next he =>
    obtain ⟨-, rfl⟩ := Prod.mk.inj he
    rcases h with h | h | h <;> cases h
  · next he =>
    obtain ⟨-, rfl⟩ := Prod.mk.inj he
    cases rest with
    | nil => rfl
    | cons c rest => rcases h with rfl | rfl | rfl <;> rfl

end ClusterSession.Json
