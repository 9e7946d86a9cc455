import DensityAudit.Binary64

/-!
# The double nearest to a fraction or a decimal

`ofRatio` rounds a non-negative fraction to the nearest double, ties to the even one, with
gradual underflow to zero and overflow to infinity. The bits of the result grow with the
fraction: the exponent field and the rounded mantissa are simply added, so that a mantissa
that rounds up to the next power of two carries into the exponent.
-/

namespace DensityAudit.Decimal

/-- The quotient rounded to the nearest whole number, a half to the even one. -/
def roundHalfEven (num den : Nat) : Nat :=
  let q := num / den
  let r := num % den
  if 2 * r < den then q else if den < 2 * r then q + 1 else q + q % 2

/-- The largest `e` with `2 ^ e ≤ num / den`, for positive `num` and `den`. -/
def binaryOrder (num den : Nat) : Int :=
  if den ≤ num then (num / den).log2 else -(((den - 1) / num).log2 + 1 : Nat)

def infinityBits : Nat := 2047 * Binary64.fractionSpan

/-- The bits of the double nearest to `num / den`. -/
def nearestBits (num den : Nat) : Nat :=
  if num = 0 then 0 else
    let e := max (binaryOrder num den - 52) (-1074)
    let mantissa :=
      if 0 ≤ e then roundHalfEven num (den * Nat.pow 2 e.toNat) else roundHalfEven (num * Nat.pow 2 (-e).toNat) den
    min ((e + 1074).toNat * Binary64.fractionSpan + mantissa) infinityBits

/-- The double nearest to `num / den`. -/
def ofRatio (num den : Nat) : Float := Float.ofBits (UInt64.ofNat (nearestBits num den))

/-- The double nearest to `digits * 10 ^ exponent`. Exponents at which the answer is plainly
infinite or zero are answered without computing the power of ten. -/
def nearest (digits : Nat) (exponent : Int) : Float :=
  if digits = 0 then ofRatio 0 1
  else if 310 < exponent then Float.ofBits (UInt64.ofNat infinityBits)
  else if exponent < -(digits.log2 + 400 : Nat) then ofRatio 0 1
  else if 0 ≤ exponent then ofRatio (digits * Nat.pow 10 exponent.toNat) 1
  else ofRatio digits (Nat.pow 10 (-exponent).toNat)

/-- The double nearest to a signed decimal; a negative zero keeps its sign. -/
def signedNearest (negative : Bool) (digits : Nat) (exponent : Int) : Float :=
  if negative then -nearest digits exponent else nearest digits exponent

end DensityAudit.Decimal
