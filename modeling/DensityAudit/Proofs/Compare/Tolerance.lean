import Mathlib.Tactic.TFAE
import DensityAudit.Compare.Tolerance
import DensityAudit.Proofs.Doubles.Maximum

/-!
# Which numbers agree

Under a tolerance that can accept anything, acceptance is decided by the reported ratio alone
(`withinTolerance_iff`). A finite number has the ratio zero to itself, so it is always accepted, and what is accepted
stays so under a larger tolerance (`withinTolerance_mono`). So the verdict of a comparison and the ratio that it reports
say the same (`checkTolerance_reports`).

The larger of two magnitudes passes over an undefined one, and whether it is zero is asked before anything is
divided by it. An undefined number therefore agrees with zero, although with no other number (`agreement_of_undefined`).

Neither the larger magnitude nor that of the difference depends on which number comes first, so a comparison comes out the
same way when its numbers are exchanged (`comparison_symmetric`).
-/

namespace DensityAudit

open Binary64

theorem Binary64.maximum_self (x : Float) : maximum x x = x := by simp [maximum]

theorem isTolerance_iff {tolerance : Float} :
    isTolerance tolerance = true ↔ tolerance.isFinite = true ∧ 0.0 < tolerance := by
  rw [isTolerance, Bool.and_eq_true, decide_eq_true_iff]

/-- A tolerance that can accept something is above zero. -/
theorem zero_lt_of_isTolerance {tolerance : Float} (valid : isTolerance tolerance = true) : 0.0 < tolerance :=
  (isTolerance_iff.1 valid).2

/-- Under a valid tolerance two numbers agree iff their relative difference is below it. -/
theorem withinTolerance_iff {value reference tolerance : Float} (valid : isTolerance tolerance = true) :
    withinTolerance value reference tolerance = true ↔ relativeDifference value reference < tolerance := by
  simp only [withinTolerance, relativeDifference]
  split
  · exact iff_of_true rfl (zero_lt_of_isTolerance valid)
  · exact decide_eq_true_iff

/-- A finite number is at no distance from itself. -/
theorem relativeDifference_self {x : Float} (finite : x.isFinite = true) : relativeDifference x x = 0.0 := by
  simp only [relativeDifference, largerMagnitude, maximum_self]
  cases zero : x.abs == 0.0 with
  | true => rfl
  | false =>
    have distance : (x - x).abs = 0.0 := by
      rw [sub_self_of_finite finite]
      decide +kernel
    have defined : (unpacked x.abs).isNaN = false := by
      rw [isNaN_unpacked_abs, isNaN_of_isFinite finite]
    rw [distance, zero_div_of_unsigned defined (abs_unpacked_abs x) zero]
    rfl

/-- A finite number agrees with itself under every valid tolerance, with the ratio zero. -/
theorem checkTolerance_self {x tolerance : Float} (finite : x.isFinite = true) (valid : isTolerance tolerance = true) :
    checkTolerance x x tolerance = .ok ⟨x, x, 0.0, tolerance⟩ := by
  have below : relativeDifference x x < tolerance := by
    rw [relativeDifference_self finite]
    exact zero_lt_of_isTolerance valid
  simp only [checkTolerance, (withinTolerance_iff valid).2 below, relativeDifference_self finite, if_true]

/-! ### The reported ratio -/

section

variable {value reference tolerance : Float}

/-- A comparison succeeds or fails with all its numbers, and succeeds iff they agree. -/
theorem checkTolerance_cases (value reference tolerance : Float) :
    let check : ToleranceCheck := ⟨value, reference, relativeDifference value reference, tolerance⟩
    withinTolerance value reference tolerance = true ∧ checkTolerance value reference tolerance = .ok check ∨
      withinTolerance value reference tolerance = false ∧
        checkTolerance value reference tolerance = .error (.mismatch (.tolerance check)) := by
  intro check
  cases agree : withinTolerance value reference tolerance with
  | true =>
    left
    rw [checkTolerance, agree, if_pos rfl]
    exact ⟨rfl, rfl⟩
  | false =>
    right
    rw [checkTolerance, agree, if_neg Bool.false_ne_true]
    exact ⟨rfl, rfl⟩

/-- A check passes iff the numbers agree within the tolerance. -/
theorem exists_checkTolerance_eq_ok_iff :
    (∃ check, checkTolerance value reference tolerance = .ok check) ↔ withinTolerance value reference tolerance = true := by
  rcases checkTolerance_cases value reference tolerance with ⟨agree, passed⟩ | ⟨apart, failed⟩
  · exact iff_of_true ⟨_, passed⟩ agree
  · rw [failed, apart]
    exact iff_of_false nofun Bool.false_ne_true

/-- Numbers that agree do so under every larger tolerance. -/
theorem withinTolerance_mono {tolerance' : Float} (larger : tolerance ≤ tolerance')
    (agree : withinTolerance value reference tolerance = true) : withinTolerance value reference tolerance' = true := by
  simp only [withinTolerance] at *
  split at agree
  case isTrue zero => rw [if_pos zero]
  case isFalse nonzero =>
    rw [if_neg nonzero]
    exact decide_eq_true (lt_of_lt_of_le (of_decide_eq_true agree) larger)

/-- The verdict of a comparison is that of the ratio it reports. Under a valid tolerance it succeeds iff the numbers agree,
which is iff the ratio is below the tolerance; in either outcome it carries both numbers, the tolerance and this ratio. It
still succeeds under a larger tolerance, and a finite number is compared to itself with the ratio zero. -/
theorem checkTolerance_reports (value reference tolerance : Float) (valid : isTolerance tolerance = true) :
    List.TFAE [∃ check, checkTolerance value reference tolerance = .ok check,
      withinTolerance value reference tolerance = true, relativeDifference value reference < tolerance] ∧
    (checkTolerance value reference tolerance =
        .ok ⟨value, reference, relativeDifference value reference, tolerance⟩ ∨
      checkTolerance value reference tolerance =
        .error (.mismatch (.tolerance ⟨value, reference, relativeDifference value reference, tolerance⟩))) ∧
    (∀ tolerance', tolerance ≤ tolerance' → (∃ check, checkTolerance value reference tolerance = .ok check) →
      ∃ check, checkTolerance value reference tolerance' = .ok check) ∧
    (value.isFinite = true → checkTolerance value value tolerance = .ok ⟨value, value, 0.0, tolerance⟩) := by
  refine ⟨?_, ?_, fun tolerance' larger accepted => ?_, fun finite => checkTolerance_self finite valid⟩
  · tfae_have 1 ↔ 2 := exists_checkTolerance_eq_ok_iff
    tfae_have 2 ↔ 3 := withinTolerance_iff valid
    tfae_finish
  · exact (checkTolerance_cases value reference tolerance).imp And.right And.right
  · rw [exists_checkTolerance_eq_ok_iff] at *
    exact withinTolerance_mono larger accepted

/-- A ratio of a quarter is not below a quarter, is below a half, and so is below two. -/
theorem checkTolerance_reports_quarter :
    (isTolerance 0.25 = true ∧
      checkTolerance 0.75 1.0 0.25 = .error (.mismatch (.tolerance ⟨0.75, 1.0, 0.25, 0.25⟩))) ∧
    (isTolerance 0.5 = true ∧ (∃ check, checkTolerance 0.75 1.0 0.5 = .ok check) ∧ (0.5 : Float) ≤ 2.0 ∧
      ∃ check, checkTolerance 0.75 1.0 2.0 = .ok check) ∧
    ((0.75 : Float).isFinite = true ∧ checkTolerance 0.75 0.75 0.5 = .ok ⟨0.75, 0.75, 0.0, 0.5⟩) := by
  have ratio : relativeDifference 0.75 1.0 = 0.25 := by decide +kernel
  have quarter : isTolerance 0.25 = true := by decide +kernel
  have half : isTolerance 0.5 = true := by decide +kernel
  have finite : (0.75 : Float).isFinite = true := by decide +kernel
  have larger : (0.5 : Float) ≤ 2.0 := by decide +kernel
  obtain ⟨exclusive, payload, -⟩ := checkTolerance_reports 0.75 1.0 0.25 quarter
  obtain ⟨verdict, -, grown, self⟩ := checkTolerance_reports 0.75 1.0 0.5 half
  have refused : ¬ ∃ check, checkTolerance 0.75 1.0 0.25 = .ok check := fun passed => by
    have below : relativeDifference 0.75 1.0 < 0.25 := (exclusive.out 0 2).1 passed
    rw [ratio] at below
    exact absurd below (by decide +kernel)
  have below : relativeDifference 0.75 1.0 < 0.5 := by
    rw [ratio]
    decide +kernel
  have accepted : ∃ check, checkTolerance 0.75 1.0 0.5 = .ok check := (verdict.out 2 0).1 below
  rw [ratio] at payload
  exact ⟨⟨quarter, payload.resolve_left fun passed => refused ⟨_, passed⟩⟩,
    ⟨half, accepted, larger, grown 2.0 larger accepted⟩, finite, self finite⟩

end

/-! ### Undefined numbers -/

/-- Two zeros of any signs have a larger magnitude of zero. -/
theorem largerMagnitude_of_zeros {value reference : Float} (zero : (value == 0.0) = true)
    (zero' : (reference == 0.0) = true) : (largerMagnitude value reference == 0.0) = true := by
  rw [largerMagnitude, maximum]
  split_ifs
  · rw [abs_beq_zero, zero']
  · rw [abs_beq_zero, zero]
  · rw [abs_beq_zero, zero']
  · rw [abs_beq_zero, zero]

/-- The magnitude of an undefined number gives way to the other one. -/
theorem largerMagnitude_of_undefined {value reference : Float} (undefined : value.isNaN = true ∨ reference.isNaN = true) :
    (largerMagnitude value reference == 0.0) = (value == 0.0 || reference == 0.0) := by
  rw [largerMagnitude]
  rcases undefined with first | second
  · have magnitude : value.abs.isNaN = true := by rw [isNaN_abs, first]
    rw [maximum_of_isNaN_left magnitude, abs_beq_zero, beq_zero_of_isNaN first, Bool.false_or]
  · have magnitude : reference.abs.isNaN = true := by rw [isNaN_abs, second]
    rw [maximum_of_isNaN_right magnitude, abs_beq_zero, beq_zero_of_isNaN second, Bool.or_false]

/-- A difference with an undefined number stays undefined when it is divided. -/
theorem isNaN_ratio {value reference : Float} (undefined : value.isNaN = true ∨ reference.isNaN = true)
    (divisor : Float) : ((value - reference).abs / divisor).isNaN = true := by
  by_contra defined
  have difference : (value - reference).isNaN = false := by
    rw [← isNaN_abs]
    exact (Taints.dividend _ divisor).defined (Bool.not_eq_true _ ▸ defined)
  rcases undefined with first | second
  · rw [(Taints.sub_left value reference).defined difference] at first
    cases first
  · rw [(Taints.sub_right value reference).defined difference] at second
    cases second

/-- An undefined number agrees with zero, with the ratio zero, and with no other number; two zeros agree, whatever
their signs. The tolerance plays no part in it. -/
theorem agreement_of_undefined (value reference tolerance : Float) :
    (value.isNaN = true ∨ reference.isNaN = true →
      withinTolerance value reference tolerance = (value == 0.0 || reference == 0.0) ∧
      checkTolerance value reference tolerance =
        if (value == 0.0 || reference == 0.0) = true then .ok ⟨value, reference, 0.0, tolerance⟩
        else .error (.mismatch (.tolerance ⟨value, reference, .nan, tolerance⟩))) ∧
    ((value == 0.0) = true → (reference == 0.0) = true →
      withinTolerance value reference tolerance = true ∧
      checkTolerance value reference tolerance = .ok ⟨value, reference, 0.0, tolerance⟩) := by
  have of_zero : (largerMagnitude value reference == 0.0) = true → withinTolerance value reference tolerance = true ∧
      checkTolerance value reference tolerance = .ok ⟨value, reference, 0.0, tolerance⟩ := fun zero => by
    simp only [checkTolerance, withinTolerance, relativeDifference, zero, if_true, and_self]
  constructor
  · intro undefined
    have zero := largerMagnitude_of_undefined undefined
    cases given : value == 0.0 || reference == 0.0 with
    | true =>
      rw [if_pos rfl]
      exact of_zero (zero.trans given)
    | false =>
      have undivided := isNaN_ratio undefined (largerMagnitude value reference)
      have ratio : relativeDifference value reference = .nan := by
        rw [Float.isNaN_eq_decide_eq_nan, decide_eq_true_eq] at undivided
        simp only [relativeDifference, zero.trans given, Bool.false_eq_true, if_false, undivided]
      have apart : withinTolerance value reference tolerance = false := by
        simp only [withinTolerance, zero.trans given, Bool.false_eq_true, if_false]
        exact decide_eq_false (not_lt_of_isNaN undivided)
      simp only [checkTolerance, apart, ratio, Bool.false_eq_true, if_false, and_self]
  · exact fun zero zero' => of_zero (largerMagnitude_of_zeros zero zero')

/-- An undefined value is told from a reference of one, and two zeros of different signs agree. -/
theorem agreement_of_undefined_one :
    withinTolerance .nan 1.0 0.5 = false ∧
      checkTolerance .nan 1.0 0.5 = .error (.mismatch (.tolerance ⟨.nan, 1.0, .nan, 0.5⟩)) ∧
      checkTolerance (-0.0) 0.0 0.5 = .ok ⟨-0.0, 0.0, 0.0, 0.5⟩ := by
  have nonzero : ((Float.nan == 0.0) || ((1.0 : Float) == 0.0)) = false := by decide +kernel
  obtain ⟨apart, mismatch⟩ := (agreement_of_undefined .nan 1.0 0.5).1 (.inl (by decide +kernel))
  have zeros := (agreement_of_undefined (-0.0) 0.0 0.5).2 (by decide +kernel) (by decide +kernel)
  rw [nonzero, if_neg Bool.false_ne_true] at mismatch
  exact ⟨apart.trans nonzero, mismatch, zeros.2⟩

/-- An undefined value agrees with a reference of zero. -/
theorem withinTolerance_nan_zero : Float.nan.isNaN = true ∧ withinTolerance .nan 0.0 0.5 = true ∧
    (checkTolerance .nan 0.0 0.5).isOk = true := by
  decide +kernel

/-! ### Exchanged numbers -/

theorem largerMagnitude_comm (a b : Float) : largerMagnitude a b = largerMagnitude b a := maximum_abs_comm a b

/-- The relative difference does not depend on which of two numbers comes first. -/
theorem relativeDifference_comm (a b : Float) : relativeDifference a b = relativeDifference b a := by
  rw [relativeDifference, largerMagnitude_comm, abs_sub_comm, relativeDifference]

/-- Agreement is mutual. -/
theorem withinTolerance_comm (a b tolerance : Float) : withinTolerance a b tolerance = withinTolerance b a tolerance := by
  rw [withinTolerance, largerMagnitude_comm, abs_sub_comm, withinTolerance]

/-- The comparison of the same numbers in the other order. -/
def ToleranceCheck.exchanged (check : ToleranceCheck) : ToleranceCheck :=
  ⟨check.reference, check.value, check.ratio, check.tolerance⟩

theorem ToleranceCheck.exchanged_inj {check check' : ToleranceCheck} :
    check.exchanged = check'.exchanged ↔ check = check' := by
  cases check
  cases check'
  simp [exchanged, and_left_comm]

/-- A comparison of any two numbers, undefined and infinite ones included, comes out the same way in either order: the
numbers agree in both or in neither, with one relative difference. A success or a mismatch is reported with the numbers
exchanged and all else equal. -/
theorem comparison_symmetric (a b tolerance : Float) :
    withinTolerance a b tolerance = withinTolerance b a tolerance ∧
    relativeDifference a b = relativeDifference b a ∧
    ((∃ check, checkTolerance a b tolerance = .ok check) ↔ ∃ check, checkTolerance b a tolerance = .ok check) ∧
    ∀ check : ToleranceCheck,
      (checkTolerance a b tolerance = .ok check ↔ checkTolerance b a tolerance = .ok check.exchanged) ∧
      (checkTolerance a b tolerance = .error (.mismatch (.tolerance check)) ↔
        checkTolerance b a tolerance = .error (.mismatch (.tolerance check.exchanged))) := by
  have agree := withinTolerance_comm a b tolerance
  have ratio := relativeDifference_comm a b
  have reported : (⟨b, a, relativeDifference b a, tolerance⟩ : ToleranceCheck) =
      ToleranceCheck.exchanged ⟨a, b, relativeDifference a b, tolerance⟩ := by rw [ratio, ToleranceCheck.exchanged]
  refine ⟨agree, ratio, ?_, fun check => ?_⟩
  · rw [exists_checkTolerance_eq_ok_iff, exists_checkTolerance_eq_ok_iff, agree]
  · simp only [checkTolerance, reported, ← agree]
    cases withinTolerance a b tolerance <;> simp [ToleranceCheck.exchanged_inj]

end DensityAudit
