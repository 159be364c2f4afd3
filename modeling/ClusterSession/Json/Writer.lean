/-
  ClusterSession: writing JSON documents.

  * `Value.compact`: a document without blanks, its members in the order in
    which they stand.
  * `realLayout`: where the digits of a floating-point number stand.
-/
import ClusterSession.Json.Text
import ClusterSession.Decimal.Shortest

namespace ClusterSession.Json

/-! ## Numbers -/

/-- Lays out a positive number `n · 10 ^ e`.  With the point after `k` digits: up to sixteen
    digits before the point, and up to four zeros after it, are written out; any other number
    gets one digit before the point and an exponent. -/
def realLayout (n : Nat) (e : Int) : List Char :=
  let ds := Nat.toDigits 10 n
  let k : Int := ds.length + e
  if 0 ≤ e ∧ k ≤ 16 then ds ++ List.replicate e.toNat '0' ++ ['.', '0']
  else if 0 < k ∧ k ≤ 16 then ds.take k.toNat ++ '.' :: ds.drop k.toNat
  else if -5 < k ∧ k ≤ 0 then '0' :: '.' :: (List.replicate (-k).toNat '0' ++ ds)
  else
    let power := if 0 < k then Nat.toDigits 10 (k - 1).toNat
      else '-' :: Nat.toDigits 10 (1 - k).toNat
    match ds with
    | [d] => d :: 'e' :: power
    | d :: rest => d :: '.' :: (rest ++ 'e' :: power)
    | [] => []

/-- A floating-point number; the zeros are `0.0` and `-0.0`. -/
def realChars (x : Float) : List Char :=
  let sign := if x.toBits.toNat < UInt64.size / 2 then [] else ['-']
  let digits := if x == 0 then ['0', '.', '0']
    else
      let (n, e) := Decimal.shortest x
      realLayout n e
  sign ++ digits

def Number.chars : Number → List Char
  | .natural n => Nat.toDigits 10 n
  | .negative n => '-' :: Nat.toDigits 10 n
  | .real x => realChars x

/-! ## Documents -/

mutual

def Value.chars : Value → List Char
  | .null => ['n', 'u', 'l', 'l']
  | .bool true => ['t', 'r', 'u', 'e']
  | .bool false => ['f', 'a', 'l', 's', 'e']
  | .number n => n.chars
  | .string s => quote s.toList
  | .array items => '[' :: itemChars true items
  | .object members => '{' :: memberChars true members

/-- The characters of the items of an array that are left, and of its end. -/
def itemChars : (first : Bool) → List Value → List Char
  | _, [] => [']']
  | first, v :: vs => (if first then [] else [',']) ++ (v.chars ++ itemChars false vs)

/-- The characters of the members of an object that are left, and of its end. -/
def memberChars : (first : Bool) → List (String × Value) → List Char
  | _, [] => ['}']
  | first, (name, v) :: rest =>
    (if first then [] else [',']) ++
      (quote name.toList ++ ':' :: (v.chars ++ memberChars false rest))

end

def Value.compact (v : Value) : String :=
  String.ofList v.chars

end ClusterSession.Json
