import DensityAudit.Binary64

/-!
# The shortest decimal that reads back

A positive double is the centre of an interval of reals that all round to it. `shortest` is the
decimal with the fewest digits in that interval, and of those the nearest to the centre. The
search goes over decimal grids from coarse to fine; on each it needs only the two points next to
the centre, because an interval that holds a grid point holds one of those two.
-/

namespace DensityAudit.Decimal

/-- The reals that round to one double, as three numerators over a common unit. The ends belong
to the interval iff the double's mantissa is even, since ties go to the even neighbour. -/
structure RoundingInterval where
  low : Nat
  centre : Nat
  high : Nat
  unit : Nat
  closed : Bool

/-- The interval of a positive finite double. The unit is a quarter of the last stored bit, so
that the half-way points are whole also where the doubles below are half as far apart. -/
def RoundingInterval.ofParts (p : Binary64.Parts) : RoundingInterval :=
  let quarter := p.exponent - 2
  let low := 4 * p.mantissa - if p.atBoundary then 1 else 2
  let high := 4 * p.mantissa + 2
  let scale := Nat.pow 2 quarter.toNat
  { low := low * scale
    centre := 4 * p.mantissa * scale
    high := high * scale
    unit := Nat.pow 2 (-quarter).toNat
    closed := p.mantissa % 2 == 0 }

namespace RoundingInterval

/-- The same interval measured in units of `10 ^ k`. -/
def inTens (i : RoundingInterval) (k : Int) : RoundingInterval :=
  let scale := Nat.pow 10 (-k).toNat
  { i with low := i.low * scale, centre := i.centre * scale, high := i.high * scale,
           unit := i.unit * Nat.pow 10 k.toNat }

/-- The whole number `n` lies in the interval. -/
def contains (i : RoundingInterval) (n : Nat) : Bool :=
  if i.closed then decide (i.low ≤ n * i.unit) && decide (n * i.unit ≤ i.high)
  else decide (i.low < n * i.unit) && decide (n * i.unit < i.high)

/-- The whole number in the interval that is nearest to its centre, a half going up. -/
def nearestWhole? (i : RoundingInterval) : Option Nat :=
  let below := i.centre / i.unit
  let above := below + 1
  match i.contains below, i.contains above with
  | true, true => some (if 2 * (i.centre - below * i.unit) < i.unit then below else above)
  | true, false => some below
  | false, true => some above
  | false, false => none

end RoundingInterval

/-- The number of decimal digits of `n`, at least one. -/
def digitCount (n : Nat) : Nat := if n < 10 then 1 else digitCount (n / 10) + 1

/-- The largest `e` with `10 ^ e ≤ num / den`, for positive `num` and `den`. -/
def decimalOrder (num den : Nat) : Int :=
  if den ≤ num then (digitCount (num / den) - 1 : Nat) else -(digitCount ((den - 1) / num) : Int)

/-- A decimal `digits * 10 ^ exponent`. -/
structure Plain where
  digits : Nat
  exponent : Int
deriving DecidableEq

/-- The decimal without a last zero. -/
def Plain.trimmed (d : Plain) : Plain :=
  if d.digits % 10 = 0 then ⟨d.digits / 10, d.exponent + 1⟩ else d

/-- The first of `tries` ever finer grids, from `10 ^ k` on, that has a point in the interval, with
that point; if there is none, `exact`. -/
def firstGridPoint (i : RoundingInterval) (exact : Plain) : Nat → Int → Plain
  | 0, _ => exact
  | tries + 1, k =>
    match (i.inTens k).nearestWhole? with
    | some digits => ⟨digits, k⟩
    | none => firstGridPoint i exact tries (k - 1)

/-- All decimal digits of a positive finite double. -/
def exactDecimal (p : Binary64.Parts) : Plain :=
  if 0 ≤ p.exponent then ⟨p.mantissa * Nat.pow 2 p.exponent.toNat, 0⟩
  else ⟨p.mantissa * Nat.pow 5 (-p.exponent).toNat, p.exponent⟩

/-- The decimal with the fewest digits that rounds to the given positive finite double, and of those
the nearest. Seventeen digits always suffice. -/
def shortest (p : Binary64.Parts) : Plain :=
  let i := RoundingInterval.ofParts p
  (firstGridPoint i (exactDecimal p) 17 (decimalOrder i.centre i.unit)).trimmed

end DensityAudit.Decimal
