/-
  ClusterSession: addresses are read as they are written.

  * `Address.Readable`: the host is not empty, and does not look like one that stands in
    brackets.
  * `splitLast_append`, `unbracket_hostChars`, `parsePort_toDigits`: the parts of the text
    of an address.
  * `parse_display`: the text of a readable address denotes it.
-/
import ClusterSession.Address

namespace ClusterSession

namespace Address

/-- The text of the address can be read: the host is not empty, and a host without colon does not
    stand in brackets itself. -/
structure Readable (a : Address) : Prop where
  nonempty : a.host ≠ ""
  unwrapped : ':' ∉ a.host.toList → ∀ inner, a.host.toList ≠ '[' :: (inner ++ [']'])

/-! ## The last colon -/

theorem splitLast_of_not_mem {c : Char} {cs : List Char} (h : c ∉ cs) : splitLast c cs = none := by
  induction cs with
  | nil => rfl
  | cons x xs ih =>
    obtain ⟨hx, hxs⟩ := not_or.1 (mt List.mem_cons.2 h)
    rw [splitLast, ih hxs]
    exact if_neg (Ne.symm hx)

/-- A text is split where the character stands last. -/
theorem splitLast_append {c : Char} {back : List Char} (h : c ∉ back) (front : List Char) :
    splitLast c (front ++ c :: back) = some (front, back) := by
  induction front with
  | nil =>
    rw [List.nil_append, splitLast, splitLast_of_not_mem h]
    exact if_pos rfl
  | cons x xs ih => rw [List.cons_append, splitLast, ih]

/-! ## The host -/

/-- Text that does not stand in brackets stays as it is. -/
theorem unbracket_eq_self {host : List Char} :
    unbracket host = host ↔ ∀ inner, host ≠ '[' :: (inner ++ [']']) := by
  unfold unbracket
  split
  · next rest =>
    split
    · next hlast =>
      obtain ⟨inner, rfl⟩ := List.getLast?_eq_some_iff.1 hlast
      refine iff_of_false (fun he => ?_) fun h => h inner rfl
      have hlength := congrArg List.length he
      simp only [List.dropLast_concat, List.length_cons, List.length_append, List.length_nil]
        at hlength
      omega
    · next hlast =>
      refine iff_of_true rfl fun inner he => hlast ?_
      rw [(List.cons.inj he).2, List.getLast?_concat]
  · next hfront => exact iff_of_true rfl fun inner he => hfront _ he

/-- The brackets that were put around a host are dropped, and no others. -/
theorem unbracket_hostChars {host : List Char} (h : ':' ∉ host → unbracket host = host) :
    unbracket (hostChars host) = host := by
  unfold hostChars
  split
  · show (if (host ++ [']']).getLast? = some ']' then (host ++ [']']).dropLast else _) = host
    rw [List.getLast?_concat, if_pos rfl, List.dropLast_concat]
  · next hcolon => exact h hcolon

theorem readable_iff {a : Address} :
    a.Readable ↔ a.host ≠ "" ∧ (':' ∉ a.host.toList → unbracket a.host.toList = a.host.toList) :=
  ⟨fun h => ⟨h.nonempty, fun hcolon => unbracket_eq_self.2 (h.unwrapped hcolon)⟩,
    fun h => ⟨h.1, fun hcolon => unbracket_eq_self.1 (h.2 hcolon)⟩⟩

instance (a : Address) : Decidable a.Readable := decidable_of_iff' _ readable_iff

/-! ## The port -/

theorem not_mem_toDigits {c : Char} (h : c.isDigit = false) (n : Nat) : c ∉ Nat.toDigits 10 n := by
  intro hm
  rw [Nat.isDigit_of_mem_toDigits (by decide) (by decide) hm] at h
  cases h

theorem decimal?_toDigits (n : Nat) : decimal? (Nat.toDigits 10 n) = some n := by
  have hall : (Nat.toDigits 10 n).all Char.isDigit = true :=
    List.all_eq_true.2 fun _ hc => Nat.isDigit_of_mem_toDigits (by decide) (by decide) hc
  rw [decimal?, if_pos ⟨Nat.toDigits_ne_nil, hall⟩,
    Nat.ofDigitChars_toDigits (by decide) (by decide)]

/-- A port without a sign. -/
theorem parsePort_unsigned {cs : List Char} {n : Nat} (hsign : ∀ ds, cs ≠ '+' :: ds)
    (hd : decimal? cs = some n) (hn : n < UInt16.size) : parsePort cs = some (UInt16.ofNat n) := by
  cases cs with
  | nil => cases hd
  | cons c cs =>
    unfold parsePort
    split
    · next he => exact absurd he (hsign _)
    · simp only [hd, if_pos hn]

theorem parsePort_toDigits (port : UInt16) :
    parsePort (Nat.toDigits 10 port.toNat) = some port := by
  have hsign : ∀ ds, Nat.toDigits 10 port.toNat ≠ '+' :: ds := fun ds he =>
    not_mem_toDigits (c := '+') rfl port.toNat (he ▸ List.mem_cons_self)
  rw [parsePort_unsigned hsign (decimal?_toDigits _) port.toNat_lt_size, UInt16.ofNat_toNat]

/-- **The text of a readable address denotes it.** -/
theorem parse_display {a : Address} (h : a.Readable) : parse a.display = .ok a := by
  have hhost : a.host.toList ≠ [] := fun he => h.nonempty (String.toList_eq_nil_iff.1 he)
  have hchars : ofChars? a.chars = some a := by
    unfold ofChars? chars
    rw [splitLast_append (not_mem_toDigits rfl _)]
    dsimp only
    rw [unbracket_hostChars (readable_iff.1 h).2, if_neg hhost, parsePort_toDigits,
      String.ofList_toList]
    rfl
  rw [parse, display, String.toList_ofList, hchars]

end Address

end ClusterSession
