import DensityAudit.Proofs.Density.Characterization
import DensityAudit.Proofs.Doubles.Squares

/-!
# Two rows on a line

If two rows make a neighbourhood dense, two rows near each other are one cluster (`labels_of_near`) and two rows that are
not are noise (`labels_of_not_near`). Rows are near each other if the square of their difference is at most that of the
radius, both rounded. Rows within the radius therefore always are (`PairLabels.together`). Rows beyond it are told apart
as long as the squares differ: not if the radius has an infinite square, or the distance a square of zero.
-/

namespace DensityAudit

namespace Density

open Binary64 (value)

/-- Two rows of one value and of weight one, which make a neighbourhood dense. -/
def pairJob (a b epsilon : Float) : Job := ⟨⟨epsilon, 2, .only .labels⟩, Table.column [a, b], none⟩

variable {a b epsilon d : Float} {c : Clustering} {i : Nat}

/-! ### The labels of two rows -/

theorem isRadius_of_nonneg (finite : epsilon.isFinite = true) (nonneg : 0.0 ≤ epsilon) : isRadius epsilon = true := by
  rw [isRadius, finite, Bool.true_and, Bool.not_eq_true', decide_eq_false_iff_not, Binary64.lt_iff_units]
  intro negative
  have sign := (Binary64.le_iff_units.1 nonneg).2.2
  omega

theorem accepted_pairJob (finite : a.isFinite = true) (finite' : b.isFinite = true) (radius : isRadius epsilon = true) :
    Accepted (pairJob a b epsilon) where
  rows := Nat.zero_lt_two
  columns := Nat.zero_lt_one
  finite := by
    show (a.isFinite && (b.isFinite && true)) = true
    rw [finite, finite']
    rfl
  radius := radius
  threshold := Nat.zero_lt_two
  weights := nofun

section

variable (accepted : Accepted (pairJob a b epsilon))
include accepted

/-- Either row has both rows near it, or itself only. -/
theorem densityAt_pairJob (inside : i < 2) :
    (pairJob a b epsilon).densityAt i = if (pairJob a b epsilon).Near 0 1 then 0.0 + 1.0 + 1.0 else 0.0 + 1.0 := by
  have first : (pairJob a b epsilon).Near 0 0 := near_self accepted Nat.zero_lt_two
  have second : (pairJob a b epsilon).Near 1 1 := near_self accepted Nat.one_lt_two
  have turned : (pairJob a b epsilon).Near 1 0 ↔ (pairJob a b epsilon).Near 0 1 := ⟨Job.Near.symm, Job.Near.symm⟩
  have rows : List.range (pairJob a b epsilon).data.rowCount = [0, 1] := rfl
  have weight : ∀ j, (pairJob a b epsilon).weightAt j = 1.0 := fun _ => rfl
  rw [Job.densityAt, rows]
  obtain rfl | rfl : i = 0 ∨ i = 1 := by omega
  · by_cases near : (pairJob a b epsilon).Near 0 1 <;> simp [first, near, weight]
  · by_cases near : (pairJob a b epsilon).Near 0 1 <;> simp [second, turned, near, weight]

/-- Either row is core iff the two are near each other. -/
theorem isCore_pairJob_iff (inside : i < 2) : (pairJob a b epsilon).IsCore i ↔ (pairJob a b epsilon).Near 0 1 := by
  have enough : Binary64.ofCount 2 ≤ 0.0 + 1.0 + 1.0 := by decide +kernel
  have few : ¬ Binary64.ofCount 2 ≤ 0.0 + 1.0 := by decide +kernel
  have rows : (pairJob a b epsilon).data.rowCount = 2 := rfl
  have required : (pairJob a b epsilon).request.minObservations = 2 := rfl
  rw [Job.IsCore, densityAt_pairJob accepted inside, rows, required, and_iff_right inside]
  split
  case isTrue near => exact iff_of_true enough near
  case isFalse apart => exact iff_of_false few apart

/-- Two rows near each other are one cluster. -/
theorem labels_of_near (described : Describes (pairJob a b epsilon) c) (near : (pairJob a b epsilon).Near 0 1) :
    c.labels = [0, 0] := by
  have core := (isCore_pairJob_iff accepted Nat.zero_lt_two).2 near
  have core' := (isCore_pairJob_iff accepted Nat.one_lt_two).2 near
  have leads : Leads (pairJob a b epsilon).Near (pairJob a b epsilon).IsCore 0 :=
    ⟨core, fun j before => absurd before (Nat.not_lt_zero j)⟩
  have first := described.reference.label_of_linked core leads .refl
  have second := described.reference.label_of_linked core' leads (.single ⟨core, core', near⟩)
  obtain ⟨l, m, labels⟩ := List.length_eq_two.1 described.reference.length
  rw [labels] at first second ⊢
  cases first
  cases second
  rfl

/-- Two rows that are not near each other are noise. -/
theorem labels_of_not_near (described : Describes (pairJob a b epsilon) c) (apart : ¬ (pairJob a b epsilon).Near 0 1) :
    c.labels = [noise, noise] := by
  have sparse : ∀ i, ¬ (pairJob a b epsilon).IsCore i := fun i core => apart ((isCore_pairJob_iff accepted core.1).1 core)
  have alone : ∀ i < 2, c.labels[i]? = some noise := fun i inside =>
    described.reference.noise i inside (sparse i) fun j core => absurd core (sparse j)
  have first := alone 0 Nat.zero_lt_two
  have second := alone 1 Nat.one_lt_two
  obtain ⟨l, m, labels⟩ := List.length_eq_two.1 described.reference.length
  rw [labels] at first second ⊢
  cases first
  cases second
  rfl

end

/-! ### Distance and radius -/

/-- A distance that is a double is compared with the radius by the squares of both. -/
theorem near_pairJob_iff (finite : a.isFinite = true) (finite' : b.isFinite = true) (finite_d : d.isFinite = true)
    (exact : value d = value a - value b) : (pairJob a b epsilon).Near 0 1 ↔ d * d ≤ epsilon * epsilon := by
  obtain ⟨difference, same⟩ := Binary64.units_sub_of_exact finite finite' finite_d (Binary64.value_eq_sub_iff.1 exact)
  have square : Binary64.units ((a - b) * (a - b)) = Binary64.units (d * d) := by
    rw [Binary64.units_mul_self difference, Binary64.units_mul_self finite_d, same]
  have unsigned := Binary64.zero_le_iff.1 (Binary64.zero_le_square (Binary64.isNaN_of_isFinite difference))
  have unsigned' := Binary64.zero_le_iff.1 (Binary64.zero_le_square (Binary64.isNaN_of_isFinite finite_d))
  have sum := Binary64.zero_le_iff.1 (Binary64.add_nonneg Binary64.zero_le_zero (Binary64.zero_le_iff.2 unsigned))
  -- the squared distance is a running sum from zero, which does not round the one square again
  have total : Binary64.units (0.0 + (a - b) * (a - b)) = Binary64.units (d * d) := by
    rw [Binary64.units_add sum.1, Binary64.units_zero, Int.zero_add, Binary64.roundedUnits_units, square]
  have opened : (pairJob a b epsilon).Near 0 1 ↔ 0.0 + (a - b) * (a - b) ≤ epsilon * epsilon :=
    ⟨fun near => near.2.2, fun close => ⟨Nat.zero_lt_two, Nat.one_lt_two, close⟩⟩
  rw [opened, Binary64.le_iff_units, Binary64.le_iff_units, sum.1, unsigned'.1, total]

/-- How two rows are labelled at a distance and with a radius, both without rounding. -/
structure PairLabels (distance radius : ℚ) (labels : List Label) : Prop where
  together : distance ≤ radius → labels = [0, 0]
  /-- The squares of distance and radius differ. -/
  apart : radius < distance → 2 ^ (-511 : ℤ) ≤ distance → radius < 2 ^ (512 : ℤ) → labels = [noise, noise]
  /-- The square of the radius is infinite. -/
  unbounded : 2 ^ (512 : ℤ) ≤ radius → labels = [0, 0]
  /-- The square of the distance is zero. -/
  vanishing : distance ≤ 2 ^ (-538 : ℤ) → labels = [0, 0]

/-- Two rows at a distance that is a double are noise iff its square is above that of the radius, both rounded, and
otherwise one cluster. So they are whenever they are within the radius; beyond it they are noise if the distance is at
least two to the power of minus 511 and the radius below two to the power of 512. -/
theorem clustering_pair (a b epsilon d : Float) (finite : a.isFinite = true) (finite' : b.isFinite = true)
    (finite_d : d.isFinite = true) (exact : value d = value a - value b) (radius : epsilon.isFinite = true)
    (nonneg : 0.0 ≤ epsilon) :
    ∃ c, ClusteredAs (pairJob a b epsilon) c ∧
      c.labels = (if d * d ≤ epsilon * epsilon then [0, 0] else [noise, noise]) ∧
      PairLabels |value a - value b| (value epsilon) c.labels := by
  have accepted := accepted_pairJob finite finite' (isRadius_of_nonneg radius nonneg)
  obtain ⟨c, answered, described⟩ := exists_clustering (fault?_eq_none_iff.2 accepted)
  have near := @near_pairJob_iff a b epsilon d finite finite' finite_d exact
  have close : d * d ≤ epsilon * epsilon → c.labels = [0, 0] := fun h => labels_of_near accepted described (near.2 h)
  have far : ¬ d * d ≤ epsilon * epsilon → c.labels = [noise, noise] :=
    fun h => labels_of_not_near accepted described (mt near.1 h)
  refine ⟨c, answered, ?_, ?_⟩
  · split
    case isTrue h => exact close h
    case isFalse h => exact far h
  · rw [← exact, ← Binary64.abs_value_of_nonneg nonneg]
    constructor
    case together =>
      intro within
      exact close (Binary64.mul_self_le_of_natAbs_le finite_d radius (Binary64.abs_value_le_abs_value_iff.1 within))
    case apart =>
      intro beyond large small
      rw [← not_le, Binary64.abs_value_le_abs_value_iff, Nat.not_le] at beyond
      rw [← not_le, Binary64.zpow_le_abs_value_iff (n := 52 + 1534) rfl, Nat.not_le] at small
      rw [Binary64.zpow_le_abs_value_iff (n := 53 + 510) rfl] at large
      exact far (Binary64.mul_self_lt_mul_self radius finite_d beyond large small)
    case unbounded =>
      intro large
      rw [Binary64.zpow_le_abs_value_iff (n := 52 + 1534) rfl] at large
      exact close (Binary64.le_mul_self_of_large finite_d radius large)
    case vanishing =>
      intro small
      rw [Binary64.abs_value_le_zpow_iff (n := 536) rfl] at small
      exact close (Binary64.mul_self_le_of_small finite_d radius small)

theorem clustering_pair_three : ∃ c, ClusteredAs (pairJob 0.0 3.0 2.0) c ∧
    PairLabels |value 0.0 - value 3.0| (value 2.0) c.labels := by
  have exact : value (-3.0) = value 0.0 - value 3.0 := Binary64.value_eq_sub_iff.2 (by decide +kernel)
  obtain ⟨c, answered, -, labels⟩ := clustering_pair 0.0 3.0 2.0 (-3.0) (by decide +kernel) (by decide +kernel)
    (by decide +kernel) exact (by decide +kernel) (by decide +kernel)
  exact ⟨c, answered, labels⟩

/-- Two rows beyond the radius that are one cluster, as the squares of their distance and of the radius are zero. -/
theorem labels_beyond_radius : value 1e-300 < |value 0.0 - value 1e-200| ∧
    ∃ c, ClusteredAs (pairJob 0.0 1e-200 1e-300) c ∧ c.labels = [0, 0] := by
  have exact : value (-1e-200) = value 0.0 - value 1e-200 := Binary64.value_eq_sub_iff.2 (by decide +kernel)
  have nonneg : (0.0 : Float) ≤ 1e-300 := by decide +kernel
  have accepted : Accepted (pairJob 0.0 1e-200 1e-300) := fault?_eq_none_iff.1 (by decide +kernel)
  obtain ⟨c, answered, described⟩ := exists_clustering (fault?_eq_none_iff.2 accepted)
  refine ⟨?_, c, answered, labels_of_near accepted described (by decide +kernel)⟩
  rw [← exact, ← Binary64.abs_value_of_nonneg nonneg, ← not_le, Binary64.abs_value_le_abs_value_iff]
  decide +kernel

end Density

end DensityAudit
