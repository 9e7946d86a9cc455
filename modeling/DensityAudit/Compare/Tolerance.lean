import DensityAudit.Failure

/-!
# Comparison of numbers

Two numbers agree if their difference, relative to the larger magnitude, is below the tolerance. Two
zeros always agree.
-/

namespace DensityAudit

def largerMagnitude (a b : Float) : Float := Binary64.maximum a.abs b.abs

/-- The difference relative to the larger magnitude, or zero for two zeros. -/
def relativeDifference (value reference : Float) : Float :=
  let largest := largerMagnitude value reference
  if largest == 0.0 then 0.0 else (value - reference).abs / largest

/-- A tolerance that can accept something: finite and positive. -/
def isTolerance (tolerance : Float) : Bool := tolerance.isFinite && decide (0.0 < tolerance)

/-- The numbers agree: both are zero, or their relative difference is below the tolerance. -/
def withinTolerance (value reference tolerance : Float) : Bool :=
  let largest := largerMagnitude value reference
  if largest == 0.0 then true else decide ((value - reference).abs / largest < tolerance)

/-- The comparison with all its numbers, as a success or as a mismatch. -/
def checkTolerance (value reference tolerance : Float) : Except Failure ToleranceCheck :=
  let check := ⟨value, reference, relativeDifference value reference, tolerance⟩
  if withinTolerance value reference tolerance then .ok check else .error (.mismatch (.tolerance check))

end DensityAudit
