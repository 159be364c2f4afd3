/-
  ClusterSession: JSON string literals.

  * `quote`: a string as a literal.  Quotation mark, reverse solidus and the
    characters below `U+0020` are escaped, everything else stands for itself.
  * `readString`: the characters of a literal, from after its opening mark.
  * `skipString`: passes over a literal; here any four hexadecimal digits are
    a character.
-/
import ClusterSession.Json.Value

namespace ClusterSession.Json

/-! ## Writing -/

/-- The digit `n < 16` in base sixteen. -/
def hexDigit (n : Nat) : Char :=
  if n < 10 then Char.ofNat (48 + n) else Char.ofNat (87 + n)

def escape (c : Char) : List Char :=
  if c = '\x22' then ['\x5c', '\x22']
  else if c = '\x5c' then ['\x5c', '\x5c']
  else if c = '\x08' then ['\x5c', 'b']
  else if c = '\x0c' then ['\x5c', 'f']
  else if c = '\n' then ['\x5c', 'n']
  else if c = '\r' then ['\x5c', 'r']
  else if c = '\t' then ['\x5c', 't']
  else if c.toNat < 0x20 then
    ['\x5c', 'u', '0', '0', hexDigit (c.toNat / 16), hexDigit (c.toNat % 16)]
  else [c]

def quote (cs : List Char) : List Char :=
  '\x22' :: (cs.flatMap escape ++ ['\x22'])

/-! ## Reading -/

def hexValue? (c : Char) : Option Nat :=
  if '0' ≤ c ∧ c ≤ '9' then some (c.toNat - 48)
  else if 'a' ≤ c ∧ c ≤ 'f' then some (c.toNat - 87)
  else if 'A' ≤ c ∧ c ≤ 'F' then some (c.toNat - 55)
  else none

/-- Number of bytes that the characters take in UTF-8. -/
def byteCount (cs : List Char) : Nat :=
  cs.foldr (fun c n => c.utf8Size + n) 0

/-- Reads four hexadecimal digits.  A text of fewer than four bytes has ended too early,
    whatever they are. -/
def readHex (cs : List Char) : Except Fault (Nat × List Char) :=
  if byteCount (cs.take 4) < 4 then .error .truncated
  else match cs with
    | a :: b :: c :: d :: rest =>
      match hexValue? a, hexValue? b, hexValue? c, hexValue? d with
      | some a, some b, some c, some d => .ok (((a * 16 + b) * 16 + c) * 16 + d, rest)
      | _, _, _, _ => .error .malformed
    | _ => .error .malformed

/-- Whether a code is the first half of a pair. -/
def isLeading (n : Nat) : Bool := 0xD800 ≤ n && n ≤ 0xDBFF

/-- Whether a code is the second half of a pair. -/
def isTrailing (n : Nat) : Bool := 0xDC00 ≤ n && n ≤ 0xDFFF

def readTrailing (cs : List Char) : Except Fault (Nat × List Char) :=
  match cs with
  | [] => .error .truncated
  | '\x5c' :: [] => .error .truncated
  | '\x5c' :: 'u' :: rest => do
    let (n, rest) ← readHex rest
    if isTrailing n then .ok (n, rest) else .error .malformed
  | _ => .error .malformed

/-- Reads the code of a character, or the codes of a pair, after the letter `u`. -/
def readCode (cs : List Char) : Except Fault (Char × List Char) := do
  let (n, rest) ← readHex cs
  if isTrailing n then .error .malformed
  else if isLeading n then
    let (m, rest) ← readTrailing rest
    .ok (Char.ofNat (0x10000 + (n - 0xD800) * 0x400 + (m - 0xDC00)), rest)
  else .ok (Char.ofNat n, rest)

/-- The character that a letter after a reverse solidus stands for. -/
def unescape? : Char → Option Char
  | '\x22' => some '\x22'
  | '\x5c' => some '\x5c'
  | '/' => some '/'
  | 'b' => some '\x08'
  | 'f' => some '\x0c'
  | 'n' => some '\n'
  | 'r' => some '\r'
  | 't' => some '\t'
  | _ => none

/-- Reads what follows a reverse solidus. -/
def readEscape (cs : List Char) : Except Fault (Char × List Char) :=
  match cs with
  | [] => .error .truncated
  | 'u' :: rest => readCode rest
  | c :: rest =>
    match unescape? c with
    | some e => .ok (e, rest)
    | none => .error .malformed

/-- Reads at most `fuel` characters of a literal and its closing mark. -/
def readChars : Nat → List Char → Except Fault (List Char × List Char)
  | 0, _ => .error .truncated
  | _ + 1, [] => .error .truncated
  | fuel + 1, c :: rest =>
    if c = '\x22' then .ok ([], rest)
    else if c = '\x5c' then do
      let (e, rest) ← readEscape rest
      let (es, rest) ← readChars fuel rest
      .ok (e :: es, rest)
    else if c.toNat < 0x20 then .error .malformed
    else do
      let (es, rest) ← readChars fuel rest
      .ok (c :: es, rest)

/-- Reads a literal after its opening mark. -/
def readString : Read String := fun cs => do
  let (s, rest) ← readChars cs.length cs
  .ok (String.ofList s, rest)

/-! ## Passing over -/

/-- Passes over what follows a reverse solidus. -/
def skipEscape (cs : List Char) : Except Fault (List Char) :=
  match cs with
  | [] => .error .truncated
  | 'u' :: rest => do
    let (_, rest) ← readHex rest
    .ok rest
  | c :: rest => if (unescape? c).isSome then .ok rest else .error .malformed

/-- Passes over at most `fuel` characters of a literal and its closing mark. -/
def skipChars : Nat → List Char → Except Fault (List Char)
  | 0, _ => .error .truncated
  | _ + 1, [] => .error .truncated
  | fuel + 1, c :: rest =>
    if c = '\x22' then .ok rest
    else if c = '\x5c' then do
      let rest ← skipEscape rest
      skipChars fuel rest
    else if c.toNat < 0x20 then .error .malformed
    else skipChars fuel rest

/-- Passes over a literal after its opening mark. -/
def skipString (cs : List Char) : Except Fault (List Char) :=
  skipChars cs.length cs

end ClusterSession.Json
