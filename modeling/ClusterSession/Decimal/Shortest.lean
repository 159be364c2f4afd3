/-
  ClusterSession: the shortest decimal that denotes a given double.

  * `Binary.ofFloat`: a finite positive double as `m · 2 ^ q`, and the interval
    of numbers that round to it.
  * `shortest`: the digits and the exponent of the decimal with the fewest
    digits in that interval; of two such, the one nearer to the double, and at
    the same distance the even one.
-/

namespace ClusterSession.Decimal

/-- The number `mantissa · 2 ^ exponent`. -/
structure Binary where
  mantissa : Nat
  exponent : Int
  /-- Whether the double below is half as far away as the one above. -/
  narrow : Bool
deriving DecidableEq, Repr

/-- The absolute value of a finite double. -/
def Binary.ofFloat (x : Float) : Binary :=
  let bits : Nat := x.toBits.toNat % Nat.pow 2 63
  let fraction : Nat := bits % Nat.pow 2 52
  let biased : Nat := bits / Nat.pow 2 52
  if biased = 0 then { mantissa := fraction, exponent := -1074, narrow := false }
  else
    { mantissa := fraction + Nat.pow 2 52, exponent := (biased : Int) - 1075
      narrow := fraction = 0 && 1 < biased }

/-- A double and the ends of its interval, as numerators over one denominator. -/
structure Interval where
  low : Nat
  value : Nat
  high : Nat
  denominator : Nat
  /-- Whether the ends round to the double. -/
  closed : Bool
deriving DecidableEq, Repr

/-- The interval of numbers that round to a double. -/
def Binary.interval (b : Binary) : Interval :=
  let up := Nat.pow 2 b.exponent.toNat
  let m := b.mantissa
  { low := (4 * m - (if b.narrow then 1 else 2)) * up
    value := 4 * m * up
    high := (4 * m + 2) * up
    denominator := 4 * Nat.pow 2 (-b.exponent).toNat
    closed := m % 2 = 0 }

/-- Whether `n / d` lies in the interval. -/
def Interval.holds (i : Interval) (n d : Nat) : Bool :=
  let l := i.low * d
  let x := n * i.denominator
  let h := i.high * d
  if i.closed then l ≤ x && x ≤ h else l < x && x < h

/-- Distance of `n / d` from the double, times both denominators. -/
def Interval.distance (i : Interval) (n d : Nat) : Nat :=
  let v := i.value * d
  let x := n * i.denominator
  (v - x) + (x - v)

/-- The multiple of `10 ^ e` that stands for the double, if one lies in the interval. -/
def Interval.pick (i : Interval) (e : Int) : Option Nat :=
  let up := Nat.pow 10 e.toNat
  let down := Nat.pow 10 (-e).toNat
  let below := i.value * down / (i.denominator * up)
  let lower := i.holds (below * up) down
  let upper := i.holds ((below + 1) * up) down
  if lower && upper then
    let l := i.distance (below * up) down
    let u := i.distance ((below + 1) * up) down
    if l < u || (l = u && below % 2 = 0) then some below else some (below + 1)
  else if lower then some below
  else if upper then some (below + 1)
  else none

/-- The largest `e` between `e - fuel` and `e` for which a multiple of `10 ^ e` lies in the
    interval, with that multiple. -/
def Interval.search (i : Interval) : (fuel : Nat) → (e : Int) → Nat × Int
  | 0, e => ((i.pick e).getD 0, e)
  | fuel + 1, e =>
    match i.pick e with
    | some 0 | none => i.search fuel (e - 1)
    | some n => (n, e)

/-- The shortest decimal of a positive finite double, as digits `n` and exponent `e` with the
    meaning `n · 10 ^ e`. -/
def shortest (x : Float) : Nat × Int :=
  let i := (Binary.ofFloat x).interval
  i.search 640 309

end ClusterSession.Decimal
