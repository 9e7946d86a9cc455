import DensityAudit.Proofs.Density.Clustering
import DensityAudit.Proofs.Density.Represents

/-!
# Rows of one job among those of another

If the rows of one job are found, with the same coordinates, among the rows of another job with the same
parameters, they have the same neighbours among themselves (`Placed.near_iff`). What is left to show, so that they
are clustered alike, is that the same rows are core and that no other core row is near them (`Placed.represents`).
-/

namespace DensityAudit.Density

variable {part whole : Job} {f : Nat → Nat} {i j : Nat}

/-- Row `i` of the first job is found as row `f i` of the second one. -/
structure Placed (f : Nat → Nat) (part whole : Job) : Prop where
  epsilon : whole.request.epsilon = part.request.epsilon
  minObservations : whole.request.minObservations = part.request.minObservations
  inside : ∀ i < part.data.rowCount, f i < whole.data.rowCount
  rowAt : ∀ i < part.data.rowCount, whole.rowAt (f i) = part.rowAt i

namespace Placed

variable (placed : Placed f part whole)
include placed

/-- Rows are near in the part iff they are near in the whole. -/
theorem near_iff (hi : i < part.data.rowCount) (hj : j < part.data.rowCount) :
    part.Near i j ↔ whole.Near (f i) (f j) := by
  rw [Job.Near, Job.Near, placed.rowAt i hi, placed.rowAt j hj, placed.epsilon]
  simp only [hi, hj, placed.inside i hi, placed.inside j hj, true_and]

/-- Rows with equal weight near them are core alike. -/
theorem isCore_iff (hi : i < part.data.rowCount) (density : whole.densityAt (f i) = part.densityAt i) :
    part.IsCore i ↔ whole.IsCore (f i) := by
  rw [Job.IsCore, Job.IsCore, density, placed.minObservations]
  simp only [hi, placed.inside i hi, true_and]

/-- Rows in their order stand for those of the whole if they are as dense and no core row near them is left out. -/
theorem represents (accepted : Accepted part) (mono : ∀ i j, j < part.data.rowCount → i ≤ j → f i ≤ f j)
    (dense : ∀ i < part.data.rowCount, part.IsCore i ↔ whole.IsCore (f i))
    (reached : ∀ i t, i < part.data.rowCount → whole.IsCore t → whole.Near (f i) t →
      ∃ k < part.data.rowCount, f k = t) :
    Represents f part.data.rowCount part.Near part.IsCore whole.Near whole.IsCore where
  inside _ core := core.1
  mono := mono
  core_iff := dense
  near_iff _ _ := placed.near_iff
  self _ := near_self accepted
  symm _ _ := Job.Near.symm
  reached := reached

end Placed

end DensityAudit.Density
