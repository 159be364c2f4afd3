/-
  ClusterSession: documents are read as they are written.

  * `Value.Fits`: a document of natural numbers that fit 64 bits, and not too deep.
  * `nextItem_cons`, `nextName_cons`: the reader finds the item or member that comes next.
  * `readValue_chars`, `skipValue_chars`: a document that fits is read, or passed over, up
    to its end.
  * `parse_compact`: the text of a document denotes the document with its members arranged.
-/
import ClusterSession.Json.Writer
import ClusterSession.Proofs.Json.Scalars

namespace ClusterSession.Json

/-! ## Documents that fit -/

mutual

/-- The document holds no numbers but natural ones that fit 64 bits, and its arrays and objects nest
    at most `depth` deep. -/
def Value.Fits : (depth : Nat) → Value → Prop
  | _, .null | _, .bool _ | _, .string _ => True
  | _, .number (.natural n) => n < UInt64.size
  | _, .number _ => False
  | 0, .array _ | 0, .object _ => False
  | depth + 1, .array items => ItemsFit depth items
  | depth + 1, .object members => MembersFit depth members

def ItemsFit : (depth : Nat) → List Value → Prop
  | _, [] => True
  | depth, v :: vs => v.Fits depth ∧ ItemsFit depth vs

def MembersFit : (depth : Nat) → List (String × Value) → Prop
  | _, [] => True
  | depth, (_, v) :: rest => v.Fits depth ∧ MembersFit depth rest

end

section
variable {depth : Nat}

/-- A number that fits is a natural one. -/
theorem number_fits_iff {x : Number} :
    (Value.number x).Fits depth ↔ ∃ n, n < UInt64.size ∧ x = .natural n := by
  cases x with
  | natural n =>
    have hfits : (Value.number (.natural n)).Fits depth ↔ n < UInt64.size := by
      cases depth <;> exact Iff.rfl
    rw [hfits]
    constructor
    · exact fun h => ⟨n, h, rfl⟩
    · rintro ⟨m, h, ⟨⟩⟩
      exact h
  | negative n => cases depth <;> exact iff_of_false id (by rintro ⟨_, -, ⟨⟩⟩)
  | real x => cases depth <;> exact iff_of_false id (by rintro ⟨_, -, ⟨⟩⟩)

theorem itemsFit_iff {vs : List Value} : ItemsFit depth vs ↔ ∀ v ∈ vs, v.Fits depth := by
  induction vs with
  | nil => simp [ItemsFit]
  | cons v vs ih => simp [ItemsFit, ih]

theorem membersFit_iff {ms : List (String × Value)} :
    MembersFit depth ms ↔ ∀ m ∈ ms, m.2.Fits depth := by
  induction ms with
  | nil => simp [MembersFit]
  | cons m ms ih => simp [MembersFit, ih]

/-! ## What a text begins with -/

theorem Value.string_chars (s : String) (rest : List Char) : (Value.string s).chars ++ rest =
    '\x22' :: (s.toList.flatMap escape ++ '\x22' :: rest) := by
  simp [Value.chars, quote]

theorem skipBlank_cons {c : Char} (h : isBlank c = false) (rest : List Char) :
    skipBlank (c :: rest) = c :: rest := by
  rw [skipBlank, List.dropWhile_cons_of_neg (by rw [h]; exact Bool.false_ne_true)]

/-- A digit is neither a blank nor a mark. -/
theorem digit_ne {c : Char} (h : c.isDigit = true) (d : Char) (hd : d.isDigit = false) : c ≠ d := by
  rintro rfl
  rw [hd] at h
  cases h

theorem toDigits_eq_cons (n : Nat) : ∃ d ds, Nat.toDigits 10 n = d :: ds ∧ d.isDigit = true := by
  cases h : Nat.toDigits 10 n with
  | nil => exact absurd h Nat.toDigits_ne_nil
  | cons d ds => exact ⟨d, ds, rfl, isDigit_of_mem_toDigits (h ▸ List.mem_cons_self)⟩

theorem isBlank_of_isDigit {c : Char} (h : c.isDigit = true) : isBlank c = false := by
  simp only [isBlank, Bool.or_eq_false_iff, decide_eq_false_iff_not]
  exact ⟨⟨⟨digit_ne h _ rfl, digit_ne h _ rfl⟩, digit_ne h _ rfl⟩, digit_ne h _ rfl⟩

/-- The first character of a document is no blank and ends no array; it is an `n` only if the
    document is `null`. -/
theorem Value.Fits.chars_eq_cons {v : Value} (h : v.Fits depth) :
    ∃ c cs, v.chars = c :: cs ∧ isBlank c = false ∧ c ≠ ']' ∧ (c = 'n' → v = .null) := by
  cases v with
  | null => exact ⟨'n', _, rfl, rfl, by decide, fun _ => rfl⟩
  | bool b => cases b <;> exact ⟨_, _, rfl, rfl, by decide, fun he => absurd he (by decide)⟩
  | number x =>
    obtain ⟨n, -, rfl⟩ := number_fits_iff.1 h
    obtain ⟨d, ds, hds, hd⟩ := toDigits_eq_cons n
    exact ⟨d, ds, hds, isBlank_of_isDigit hd, digit_ne hd _ rfl,
      fun he => absurd he (digit_ne hd _ rfl)⟩
  | string s => exact ⟨_, _, rfl, rfl, by decide, fun he => absurd he (by decide)⟩
  | array items => exact ⟨_, _, rfl, rfl, by decide, fun he => absurd he (by decide)⟩
  | object members => exact ⟨_, _, rfl, rfl, by decide, fun he => absurd he (by decide)⟩

/-! ## Items and members -/

theorem stops_itemChars (vs : List Value) (rest : List Char) :
    Stops (itemChars false vs ++ rest) := by
  cases vs with
  | nil => exact .inr (.inl rfl)
  | cons v vs => exact .inl rfl

theorem stops_memberChars (ms : List (String × Value)) (rest : List Char) :
    Stops (memberChars false ms ++ rest) := by
  cases ms with
  | nil => exact .inr (.inr rfl)
  | cons m ms => exact .inl rfl

/-- What has been read is handed on. -/
theorem ok_bind {ε α β : Type} (a : α) (f : α → Except ε β) : (Except.ok a >>= f) = f a := rfl

theorem colon_cons (rest : List Char) : colon (':' :: rest) = .ok rest := rfl

/-- The array has ended. -/
theorem nextItem_nil (first : Bool) (rest : List Char) :
    nextItem first (itemChars first [] ++ rest) = .ok (none, rest) := rfl

/-- **The next item comes.** -/
theorem nextItem_cons (first : Bool) {v : Value} (hv : v.Fits depth) (vs : List Value)
    (rest : List Char) :
    nextItem first (itemChars first (v :: vs) ++ rest) =
      .ok (some (), v.chars ++ (itemChars false vs ++ rest)) := by
  obtain ⟨c, cs, hc, hblank, hend, -⟩ := hv.chars_eq_cons
  have hskip : ∀ tail, skipBlank (v.chars ++ tail) = v.chars ++ tail := fun tail => by
    rw [hc, List.cons_append, skipBlank_cons hblank]
  cases first with
  | true =>
    have htext : itemChars true (v :: vs) ++ rest = v.chars ++ (itemChars false vs ++ rest) := by
      simp [itemChars]
    rw [htext, nextItem, hskip, hc, List.cons_append]
    split
    · next he => cases he
    · next he => exact absurd (List.cons.inj he).1 hend
    · next he =>
      obtain ⟨rfl, rfl⟩ := List.cons.inj he
      rfl
  | false =>
    have htext : itemChars false (v :: vs) ++ rest =
        ',' :: (v.chars ++ (itemChars false vs ++ rest)) := by simp [itemChars]
    rw [htext, nextItem, skipBlank_cons rfl]
    split
    · next he => cases he
    · next he => exact absurd (List.cons.inj he).1 (by decide)
    · next he =>
      obtain ⟨rfl, rfl⟩ := List.cons.inj he
      rw [if_neg Bool.false_ne_true, if_pos rfl, hskip, hc, List.cons_append]
      split
      · next he => cases he
      · next he => exact absurd (List.cons.inj he).1 hend
      · rfl

/-- The object has ended. -/
theorem nextName_nil (first : Bool) (rest : List Char) :
    nextName first (memberChars first [] ++ rest) = .ok (none, rest) := rfl

/-- **The next member comes.** -/
theorem nextName_cons (first : Bool) (name : String) (v : Value) (ms : List (String × Value))
    (rest : List Char) :
    nextName first (memberChars first ((name, v) :: ms) ++ rest) =
      .ok (some name, ':' :: (v.chars ++ (memberChars false ms ++ rest))) := by
  let after := ':' :: (v.chars ++ (memberChars false ms ++ rest))
  have hname : nameAfterMark (name.toList.flatMap escape ++ '\x22' :: after) =
      .ok (some name, after) := by
    rw [nameAfterMark, readString_quoted]
    rfl
  cases first with
  | true =>
    have htext : memberChars true ((name, v) :: ms) ++ rest =
        '\x22' :: (name.toList.flatMap escape ++ '\x22' :: after) := by
      simp [memberChars, quote, after]
    rw [htext]
    exact hname
  | false =>
    have htext : memberChars false ((name, v) :: ms) ++ rest =
        ',' :: '\x22' :: (name.toList.flatMap escape ++ '\x22' :: after) := by
      simp [memberChars, quote, after]
    rw [htext]
    exact hname

theorem skipName_nil (first : Bool) (rest : List Char) :
    skipName first (memberChars first [] ++ rest) = .ok (none, rest) := rfl

/-- The name of the next member is passed over. -/
theorem skipName_cons (first : Bool) (name : String) (v : Value) (ms : List (String × Value))
    (rest : List Char) :
    skipName first (memberChars first ((name, v) :: ms) ++ rest) =
      .ok (some (), ':' :: (v.chars ++ (memberChars false ms ++ rest))) := by
  let after := ':' :: (v.chars ++ (memberChars false ms ++ rest))
  have hname : (do
      let rest ← skipString (name.toList.flatMap escape ++ '\x22' :: after)
      .ok (some (), rest)) = Except.ok (some (), after) := by
    rw [skipString_quoted]
    rfl
  cases first with
  | true =>
    have htext : memberChars true ((name, v) :: ms) ++ rest =
        '\x22' :: (name.toList.flatMap escape ++ '\x22' :: after) := by
      simp [memberChars, quote, after]
    rw [htext]
    exact hname
  | false =>
    have htext : memberChars false ((name, v) :: ms) ++ rest =
        ',' :: '\x22' :: (name.toList.flatMap escape ++ '\x22' :: after) := by
      simp [memberChars, quote, after]
    rw [htext]
    exact hname

/-! ## Whole documents -/

/-- A value that begins with a digit is a number. -/
theorem readValueWith_digit {c : Char} (h : c.isDigit = true) (fuel : Nat) (rest : List Char) :
    readValueWith (fuel + 1) depth (c :: rest) = (readNumber true).map .number (c :: rest) := by
  rw [readValueWith, skipBlank_cons (isBlank_of_isDigit h)]
  split
  · next he => cases he
  · next he => exact absurd (List.cons.inj he).1 (digit_ne h _ rfl)
  · next he => exact absurd (List.cons.inj he).1 (digit_ne h _ rfl)
  · next he => exact absurd (List.cons.inj he).1 (digit_ne h _ rfl)
  · next he => exact absurd (List.cons.inj he).1 (digit_ne h _ rfl)
  · next he => exact absurd (List.cons.inj he).1 (digit_ne h _ rfl)
  · next he => exact absurd (List.cons.inj he).1 (digit_ne h _ rfl)
  · next he => exact absurd (List.cons.inj he).1 (digit_ne h _ rfl)
  · next he =>
    obtain ⟨rfl, rfl⟩ := List.cons.inj he
    exact if_pos h

/-- A reader with that much fuel reads what was written. -/
structure Reads (fuel : Nat) : Prop where
  value : ∀ (v : Value) depth rest, v.Fits depth → v.chars.length ≤ fuel → Stops rest →
    readValueWith fuel depth (v.chars ++ rest) = .ok (v, rest)
  items : ∀ first vs depth rest, ItemsFit depth vs → (itemChars first vs).length ≤ fuel →
    readItems fuel depth first (itemChars first vs ++ rest) = .ok (vs, rest)
  members : ∀ first ms depth rest, MembersFit depth ms → (memberChars first ms).length ≤ fuel →
    readMembers fuel depth first (memberChars first ms ++ rest) = .ok (ms, rest)

theorem chars_length_pos {v : Value} (h : v.Fits depth) : 0 < v.chars.length := by
  obtain ⟨c, cs, hc, -⟩ := h.chars_eq_cons
  rw [hc]
  exact Nat.succ_pos _

theorem itemChars_length (first : Bool) (v : Value) (vs : List Value) :
    (itemChars first (v :: vs)).length =
      (if first then 0 else 1) + v.chars.length + (itemChars false vs).length := by
  cases first with
  | true => simp [itemChars]
  | false =>
    simp only [itemChars, Bool.false_eq_true, if_false, List.length_append, List.length_cons,
      List.length_nil]
    omega

theorem itemChars_length_pos (first : Bool) (vs : List Value) :
    0 < (itemChars first vs).length := by
  induction vs generalizing first with
  | nil => exact Nat.succ_pos _
  | cons v vs ih =>
    have := ih false
    rw [itemChars_length]
    omega

theorem memberChars_length (first : Bool) (name : String) (v : Value) (ms : List (String × Value)) :
    v.chars.length + (memberChars false ms).length + 3 ≤
      (memberChars first ((name, v) :: ms)).length := by
  cases first with
  | true =>
    simp [memberChars, quote]
  | false =>
    simp [memberChars, quote]
    omega

theorem memberChars_length_pos (first : Bool) (ms : List (String × Value)) :
    0 < (memberChars first ms).length := by
  cases ms with
  | nil => exact Nat.succ_pos _
  | cons m ms =>
    obtain ⟨name, v⟩ := m
    have := memberChars_length first name v ms
    omega

theorem readItems_step {fuel : Nat} (h : Reads fuel) (first : Bool) (vs : List Value)
    (rest : List Char) (hfit : ItemsFit depth vs) (hlen : (itemChars first vs).length ≤ fuel + 1) :
    readItems (fuel + 1) depth first (itemChars first vs ++ rest) = .ok (vs, rest) := by
  cases vs with
  | nil =>
    rw [readItems, nextItem_nil]
    rfl
  | cons v vs =>
    obtain ⟨hv, hvs⟩ := hfit
    have hcons := itemChars_length first v vs
    have hpos := chars_length_pos hv
    have hmore := itemChars_length_pos false vs
    have hvalue := h.value v depth _ hv (by omega) (stops_itemChars vs rest)
    have hitems := h.items false vs depth rest hvs (by omega)
    rw [readItems, nextItem_cons first hv]
    simp only [ok_bind, hvalue, hitems]

theorem readMembers_step {fuel : Nat} (h : Reads fuel) (first : Bool) (ms : List (String × Value))
    (rest : List Char) (hfit : MembersFit depth ms)
    (hlen : (memberChars first ms).length ≤ fuel + 1) :
    readMembers (fuel + 1) depth first (memberChars first ms ++ rest) = .ok (ms, rest) := by
  cases ms with
  | nil =>
    rw [readMembers, nextName_nil]
    rfl
  | cons m ms =>
    obtain ⟨name, v⟩ := m
    obtain ⟨hv, hms⟩ := hfit
    have hcons := memberChars_length first name v ms
    have hvalue := h.value v depth _ hv (by omega) (stops_memberChars ms rest)
    have hmembers := h.members false ms depth rest hms (by omega)
    rw [readMembers, nextName_cons]
    simp only [ok_bind, colon_cons, hvalue, hmembers]

theorem readValue_step {fuel : Nat} (h : Reads fuel) (v : Value) (rest : List Char)
    (hfit : v.Fits depth) (hlen : v.chars.length ≤ fuel + 1) (hrest : Stops rest) :
    readValueWith (fuel + 1) depth (v.chars ++ rest) = .ok (v, rest) := by
  cases v with
  | null => rfl
  | bool b => cases b <;> rfl
  | number x =>
    obtain ⟨n, hn, rfl⟩ := number_fits_iff.1 hfit
    obtain ⟨d, ds, hds, hd⟩ := toDigits_eq_cons n
    show readValueWith (fuel + 1) depth (Nat.toDigits 10 n ++ rest) = _
    rw [hds, List.cons_append, readValueWith_digit hd, ← List.cons_append, ← hds, Read.map,
      readNumber_natural hn hrest]
  | string s =>
    rw [Value.string_chars]
    show readString.map Value.string (s.toList.flatMap escape ++ '\x22' :: rest) = _
    rw [Read.map, readString_quoted]
  | array vs =>
    cases depth with
    | zero => cases hfit
    | succ depth =>
      show (readItems fuel depth true).map Value.array (itemChars true vs ++ rest) = _
      rw [Read.map, h.items true vs depth rest hfit (Nat.le_of_succ_le_succ hlen)]
  | object ms =>
    cases depth with
    | zero => cases hfit
    | succ depth =>
      show (readMembers fuel depth true).map Value.object (memberChars true ms ++ rest) = _
      rw [Read.map, h.members true ms depth rest hfit (Nat.le_of_succ_le_succ hlen)]

theorem reads (fuel : Nat) : Reads fuel := by
  induction fuel with
  | zero =>
    refine ⟨fun v depth rest hv hlen _ => ?_, fun first vs depth rest _ hlen => ?_,
      fun first ms depth rest _ hlen => ?_⟩
    · exact absurd hlen (Nat.not_le_of_lt (chars_length_pos hv))
    · exact absurd hlen (Nat.not_le_of_lt (itemChars_length_pos first vs))
    · exact absurd hlen (Nat.not_le_of_lt (memberChars_length_pos first ms))
  | succ fuel ih =>
    exact ⟨fun v depth rest hv hlen hrest => readValue_step ih v rest hv hlen hrest,
      fun first vs depth rest hvs hlen => readItems_step ih first vs rest hvs hlen,
      fun first ms depth rest hms hlen => readMembers_step ih first ms rest hms hlen⟩

/-- **A document that fits is read up to its end.** -/
theorem readValue_chars {v : Value} (h : v.Fits depth) {rest : List Char} (hrest : Stops rest) :
    readValue depth (v.chars ++ rest) = .ok (v, rest) := by
  refine (reads _).value v depth rest h ?_ hrest
  rw [List.length_append]
  omega

/-! ## Documents that are passed over -/

theorem skipValueWith_digit {c : Char} (h : c.isDigit = true) (fuel : Nat) (rest : List Char) :
    skipValueWith (fuel + 1) (c :: rest) = skipNumber (c :: rest) := by
  rw [skipValueWith, skipBlank_cons (isBlank_of_isDigit h)]
  split
  · next he => cases he
  · next he => exact absurd (List.cons.inj he).1 (digit_ne h _ rfl)
  · next he => exact absurd (List.cons.inj he).1 (digit_ne h _ rfl)
  · next he => exact absurd (List.cons.inj he).1 (digit_ne h _ rfl)
  · next he => exact absurd (List.cons.inj he).1 (digit_ne h _ rfl)
  · next he => exact absurd (List.cons.inj he).1 (digit_ne h _ rfl)
  · next he => exact absurd (List.cons.inj he).1 (digit_ne h _ rfl)
  · next he => exact absurd (List.cons.inj he).1 (digit_ne h _ rfl)
  · next he =>
    obtain ⟨rfl, rfl⟩ := List.cons.inj he
    exact if_pos h

/-- A reader with that much fuel passes over what was written. -/
structure Skips (fuel : Nat) : Prop where
  value : ∀ (v : Value) depth rest, v.Fits depth → v.chars.length ≤ fuel → Stops rest →
    skipValueWith fuel (v.chars ++ rest) = .ok rest
  items : ∀ first vs depth rest, ItemsFit depth vs → (itemChars first vs).length ≤ fuel →
    skipItems fuel first (itemChars first vs ++ rest) = .ok rest
  members : ∀ first ms depth rest, MembersFit depth ms → (memberChars first ms).length ≤ fuel →
    skipMembers fuel first (memberChars first ms ++ rest) = .ok rest

theorem skipItems_step {fuel : Nat} (h : Skips fuel) (first : Bool) (vs : List Value)
    (rest : List Char) (hfit : ItemsFit depth vs) (hlen : (itemChars first vs).length ≤ fuel + 1) :
    skipItems (fuel + 1) first (itemChars first vs ++ rest) = .ok rest := by
  cases vs with
  | nil =>
    rw [skipItems, nextItem_nil]
    rfl
  | cons v vs =>
    obtain ⟨hv, hvs⟩ := hfit
    have hcons := itemChars_length first v vs
    have hpos := chars_length_pos hv
    have hmore := itemChars_length_pos false vs
    have hvalue := h.value v depth _ hv (by omega) (stops_itemChars vs rest)
    rw [skipItems, nextItem_cons first hv]
    simp only [ok_bind, hvalue]
    exact h.items false vs depth rest hvs (by omega)

theorem skipMembers_step {fuel : Nat} (h : Skips fuel) (first : Bool) (ms : List (String × Value))
    (rest : List Char) (hfit : MembersFit depth ms)
    (hlen : (memberChars first ms).length ≤ fuel + 1) :
    skipMembers (fuel + 1) first (memberChars first ms ++ rest) = .ok rest := by
  cases ms with
  | nil =>
    rw [skipMembers, skipName_nil]
    rfl
  | cons m ms =>
    obtain ⟨name, v⟩ := m
    obtain ⟨hv, hms⟩ := hfit
    have hcons := memberChars_length first name v ms
    have hvalue := h.value v depth _ hv (by omega) (stops_memberChars ms rest)
    rw [skipMembers, skipName_cons]
    simp only [ok_bind, colon_cons, hvalue]
    exact h.members false ms depth rest hms (by omega)

theorem skipValue_step {fuel : Nat} (h : Skips fuel) (v : Value) (rest : List Char)
    (hfit : v.Fits depth) (hlen : v.chars.length ≤ fuel + 1) (hrest : Stops rest) :
    skipValueWith (fuel + 1) (v.chars ++ rest) = .ok rest := by
  cases v with
  | null => rfl
  | bool b => cases b <;> rfl
  | number x =>
    obtain ⟨n, -, rfl⟩ := number_fits_iff.1 hfit
    obtain ⟨d, ds, hds, hd⟩ := toDigits_eq_cons n
    show skipValueWith (fuel + 1) (Nat.toDigits 10 n ++ rest) = _
    rw [hds, List.cons_append, skipValueWith_digit hd, ← List.cons_append, ← hds,
      skipNumber_natural n hrest]
  | string s =>
    rw [Value.string_chars]
    exact skipString_quoted s rest
  | array vs =>
    cases depth with
    | zero => cases hfit
    | succ depth => exact h.items true vs depth rest hfit (Nat.le_of_succ_le_succ hlen)
  | object ms =>
    cases depth with
    | zero => cases hfit
    | succ depth => exact h.members true ms depth rest hfit (Nat.le_of_succ_le_succ hlen)

theorem skips (fuel : Nat) : Skips fuel := by
  induction fuel with
  | zero =>
    refine ⟨fun v depth rest hv hlen _ => ?_, fun first vs depth rest _ hlen => ?_,
      fun first ms depth rest _ hlen => ?_⟩
    · exact absurd hlen (Nat.not_le_of_lt (chars_length_pos hv))
    · exact absurd hlen (Nat.not_le_of_lt (itemChars_length_pos first vs))
    · exact absurd hlen (Nat.not_le_of_lt (memberChars_length_pos first ms))
  | succ fuel ih =>
    exact ⟨fun v depth rest hv hlen hrest => skipValue_step ih v rest hv hlen hrest,
      fun first vs depth rest hvs hlen => skipItems_step ih first vs rest hvs hlen,
      fun first ms depth rest hms hlen => skipMembers_step ih first ms rest hms hlen⟩

/-- **A document that fits is passed over up to its end.** -/
theorem skipValue_chars {v : Value} (h : v.Fits depth) {rest : List Char} (hrest : Stops rest) :
    skipValue (v.chars ++ rest) = .ok rest := by
  refine (skips _).value v depth rest h ?_ hrest
  rw [List.length_append]
  omega

/-- **The text of a document denotes the document with its members arranged.** -/
theorem parse_compact {v : Value} (h : v.Fits maxDepth) : parse v.compact = .ok v.canonical := by
  have hread : readValue maxDepth (v.chars ++ []) = .ok (v, []) := readValue_chars h trivial
  rw [List.append_nil] at hread
  rw [parse, readAll, Value.compact, String.toList_ofList, Read.map, hread]
  rfl

end

end ClusterSession.Json
