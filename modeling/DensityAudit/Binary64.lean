/-!
# Doubles as sign, mantissa and exponent

The few facts about doubles that are not arithmetic: the double nearest to a count, the
larger of two doubles when one of them may be undefined, and the reading of a double as
`± mantissa * 2 ^ exponent`, on which the decimal texts are defined.
-/

namespace DensityAudit.Binary64

/-- The double nearest to a count; a count half-way between two doubles goes to the even one. -/
def ofCount (n : Nat) : Float := Float.ofModel (Float.Model.ofNat n)

/-- The larger of two doubles. An undefined operand gives way to the other one, so the result
is undefined only if both are. -/
def maximum (a b : Float) : Float :=
  if a.isNaN then b else if b.isNaN then a else if a < b then b else a

/-- How many doubles share a stored exponent: two to the power of fifty-two. -/
def fractionSpan : Nat := 4503599627370496

/-- The weight of the sign bit: two to the power of sixty-three. -/
def signWeight : Nat := 9223372036854775808

/-- A finite double as `± mantissa * 2 ^ exponent`, with the exponent of its last stored bit. -/
structure Parts where
  negative : Bool
  mantissa : Nat
  exponent : Int
deriving DecidableEq

/-- The value is the smallest of its binary order of magnitude, so that the doubles below it
are half as far apart as those above. -/
def Parts.atBoundary (p : Parts) : Bool := p.mantissa == fractionSpan && decide (-1074 < p.exponent)

/-- The sign bit, which a zero and an infinity have as well. -/
def signBit (x : Float) : Bool := decide (signWeight ≤ x.toBits.toNat)

/-- The parts of a finite double; of an infinite or undefined one they mean nothing. -/
def parts (x : Float) : Parts :=
  let magnitude : Nat := x.toBits.toNat % signWeight
  let field : Nat := magnitude / fractionSpan
  let fraction := magnitude % fractionSpan
  if field = 0 then ⟨signBit x, fraction, -1074⟩
  else ⟨signBit x, fractionSpan + fraction, (field : Int) - 1075⟩

end DensityAudit.Binary64
