/-!
The shortest decimal that reads back. A positive binary number owns the interval of reals that round
to it; of the decimal grids `10 ^ k` the coarsest one with a point in that interval gives the digits.
-/

namespace EntityScene

/-- A positive rational `num / den` between the ends of the interval of reals that round to it.
All three share the denominator. -/
structure RoundingInterval where
  low : Nat
  num : Nat
  high : Nat
  den : Nat
  closed : Bool

/-- The number `mantissa * 2 ^ exponent`. Below the least mantissa of a binade the neighbours lie
half as far apart, which `narrow` says. The ends round to it when its mantissa is even. -/
def RoundingInterval.ofBinary (mantissa : Nat) (exponent : Int) (narrow : Bool) :
    RoundingInterval :=
  let scale := Nat.pow 2 (exponent - 2).toNat
  { low := (4 * mantissa - if narrow then 1 else 2) * scale
    num := 4 * mantissa * scale
    high := (4 * mantissa + 2) * scale
    den := Nat.pow 2 (2 - exponent).toNat
    closed := mantissa % 2 == 0 }

/-- The rational `point / unit` lies in the interval, where `unit` is a multiple of its denominator
by `factor`. -/
def RoundingInterval.holds (interval : RoundingInterval) (factor point : Nat) : Bool :=
  if interval.closed then
    decide (interval.low * factor ≤ point) && decide (point ≤ interval.high * factor)
  else
    decide (interval.low * factor < point) && decide (point < interval.high * factor)

/-- The point of the grid `10 ^ k` that stands for the number: of its two neighbours on the grid the
one in the interval, the nearer one if both are, the upper one at equal distance. -/
def RoundingInterval.onGrid (interval : RoundingInterval) (k : Int) : Option Nat :=
  let factor := Nat.pow 10 (-k).toNat
  let step := interval.den * Nat.pow 10 k.toNat
  let num := interval.num * factor
  let lower := num / step
  let rest := num % step
  match interval.holds factor (lower * step), interval.holds factor ((lower + 1) * step) with
  | true, true => some (if 2 * rest < step then lower else lower + 1)
  | true, false => some lower
  | false, true => some (lower + 1)
  | false, false => none

/-- The coarsest grid at or below `10 ^ k` with a point in the interval, searched for `fuel` steps. -/
def RoundingInterval.search (interval : RoundingInterval) : Nat → Int → Nat × Int
  | 0, k => (interval.num * Nat.pow 10 (-k).toNat / (interval.den * Nat.pow 10 k.toNat), k)
  | fuel + 1, k =>
    match interval.onGrid k with
    | some digits => (digits, k)
    | none => interval.search fuel (k - 1)

/-- Digits and decimal exponent of the shortest decimal that reads back as the number. Every finite
double is reached within the fuel. -/
def RoundingInterval.shortest (interval : RoundingInterval) : Nat × Int :=
  interval.search 1200 (Nat.toDigits 10 (interval.num / interval.den)).length

end EntityScene
