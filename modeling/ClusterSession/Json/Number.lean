/-
  ClusterSession: JSON numbers.

  * `readNumber`: an integer that fits 64 bits is exact.  Any other number is
    the double nearest to its leading digits (as many as stay below `2 ^ 64`),
    scaled by one power of ten; a number too large for that is malformed.
  * `skipNumber`: passes over a number of any size.
-/
import ClusterSession.Json.Value

namespace ClusterSession.Json

/-- Splits off the digits at the front. -/
def digitRun (cs : List Char) : List Char × List Char :=
  (cs.takeWhile Char.isDigit, cs.dropWhile Char.isDigit)

def digitValue (c : Char) : Nat := c.toNat - 48

/-- Appends digits to `n` while the result stays below `2 ^ 64`; the digits from the first one
    that does not fit are left over. -/
def gather (n : Nat) : List Char → Nat × List Char
  | [] => (n, [])
  | d :: ds =>
    if n * 10 + digitValue d < 2 ^ 64 then gather (n * 10 + digitValue d) ds
    else (n, d :: ds)

/-- Power of ten, rounded to the nearest double. -/
def pow10 (e : Nat) : Float := Float.ofScientific 1 false e

/-- The number `f · 10 ^ e`, with one rounding for each step of the scale; `none` if it is too
    large.  Below `10 ^ -616` nothing is left of an integer that fits 64 bits. -/
def scale (f : Float) (e : Int) : Option Float :=
  if f == 0 then some f
  else if 0 ≤ e then
    if 308 < e then none
    else
      let g := f * pow10 e.toNat
      if g.isInf then none else some g
  else if -308 ≤ e then some (f / pow10 (-e).toNat)
  else if -616 ≤ e then some (f / pow10 308 / pow10 (-e - 308).toNat)
  else some 0

/-- The number with a sign, `n` and an exponent. -/
def realOf (positive : Bool) (n : Nat) (e : Int) : Except Fault Number :=
  match scale (UInt64.ofNat n).toFloat e with
  | some f => .ok (.real (if positive then f else -f))
  | none => .error .malformed

/-- The integer with a sign; one that does not fit, and the negative zero, are floats. -/
def integerOf (positive : Bool) (n : Nat) : Number :=
  if positive then .natural n
  else if n = 0 ∨ UInt64.size / 2 < n then .real (-(UInt64.ofNat n).toFloat)
  else .negative n

/-- Largest absolute value of a written exponent that is computed with. -/
def exponentLimit : Nat := 2147483647

/-- Reads an exponent after its letter. -/
def readExponent (positive : Bool) (n : Nat) (e : Int) : Read Number := fun cs =>
  let (up, cs) := match cs with
    | '+' :: rest => (true, rest)
    | '-' :: rest => (false, rest)
    | cs => (true, cs)
  match digitRun cs with
  | ([], []) => .error .truncated
  | ([], _ :: _) => .error .malformed
  | (ds, rest) => do
    let written := Nat.ofDigitChars 10 ds 0
    if exponentLimit < written then
      if n ≠ 0 ∧ up then .error .malformed
      else .ok (.real (if positive then 0 else -0), rest)
    else
      let number ← realOf positive n (if up then e + written else e - written)
      .ok (number, rest)

/-- Reads what may follow the digits of a fraction or of an integer out of range. -/
def readScale (positive : Bool) (n : Nat) (e : Int) : Read Number := fun cs =>
  match cs with
  | 'e' :: rest | 'E' :: rest => readExponent positive n e rest
  | cs => do
    let number ← realOf positive n e
    .ok (number, cs)

def readFraction (positive : Bool) (n : Nat) (e : Int) : Read Number := fun cs =>
  match digitRun cs with
  | ([], []) => .error .truncated
  | ([], _ :: _) => .error .malformed
  | (ds, rest) =>
    let (m, left) := gather n ds
    readScale positive m (e - (ds.length - left.length : Nat)) rest

/-- Reads what follows the digits of an integer; `left` of them did not fit. -/
def readTail (positive : Bool) (n : Nat) (left : List Char) : Read Number := fun cs =>
  match cs with
  | '.' :: rest => readFraction positive n left.length rest
  | 'e' :: rest | 'E' :: rest => readExponent positive n left.length rest
  | cs =>
    if left = [] then .ok (integerOf positive n, cs)
    else do
      let number ← realOf positive n left.length
      .ok (number, cs)

def readNumber (positive : Bool) : Read Number := fun cs =>
  match digitRun cs with
  | ([], []) => .error .truncated
  | ([], _ :: _) => .error .malformed
  | ('0' :: _ :: _, _) => .error .malformed
  | (ds, rest) =>
    let (n, left) := gather 0 ds
    readTail positive n left rest

/-! ## Passing over -/

/-- Passes over an exponent after its letter. -/
def skipExponent (cs : List Char) : Except Fault (List Char) :=
  let cs := match cs with
    | '+' :: rest | '-' :: rest => rest
    | cs => cs
  match digitRun cs with
  | ([], _) => .error .malformed
  | (_, rest) => .ok rest

/-- Passes over what may follow a fraction. -/
def skipScale (cs : List Char) : Except Fault (List Char) :=
  match cs with
  | 'e' :: rest | 'E' :: rest => skipExponent rest
  | cs => .ok cs

/-- Passes over a number after its sign. -/
def skipNumber (cs : List Char) : Except Fault (List Char) :=
  match digitRun cs with
  | ([], _) => .error .malformed
  | ('0' :: _ :: _, _) => .error .malformed
  | (_, '.' :: rest) =>
    match digitRun rest with
    | ([], _) => .error .malformed
    | (_, rest) => skipScale rest
  | (_, rest) => skipScale rest

end ClusterSession.Json
