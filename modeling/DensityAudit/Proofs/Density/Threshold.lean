import DensityAudit.Proofs.Density.Rearrangement

/-!
# The threshold on whole weights

The required number of observations is rounded to a double, and from two to the power of fifty-three on it may become a
smaller one. Weights that are whole numbers are summed exactly as long as all rows together weigh less than that, and no
larger number is rounded down to such a sum (`ofCount_le_ofCount_iff`). So the rounded threshold separates the same rows
as the number that was asked for (`coreFlags_exact`).
-/

namespace DensityAudit

/-- Below two to the power of fifty-three the doubles of two counts compare as the counts do, even if the other count is
rounded: it cannot pass the next count, which is a double. -/
theorem Binary64.ofCount_le_ofCount_iff {m n : ℕ} (short : n < 2 ^ 53) : ofCount m ≤ ofCount n ↔ m ≤ n := by
  refine ⟨fun le => ?_, ofCount_le_ofCount⟩
  by_contra above
  have next : ofCount (n + 1) ≤ ofCount n := le_trans (ofCount_le_ofCount (Nat.not_le.1 above)) le
  have units := (le_iff_units.1 next).2.2
  rw [units_ofCount_of_le short, units_ofCount_of_le short.le, Int.ofNat_le] at units
  exact Nat.not_succ_le_self n (Nat.le_of_mul_le_mul_right units (by positivity))

/-- How much the rows near row `i` weigh together, if row `j` weighs as much as `counts[j]` rows. -/
def Job.countNear (job : Job) (counts : List Nat) (i : Nat) : Nat :=
  (((List.range job.data.rowCount).filter fun j => decide (job.Near i j)).map fun j => counts.getD j 0).sum

namespace Density

variable {job : Job} {counts : List Nat} {i : Nat}

/-- No neighbourhood weighs more than all rows together. -/
theorem countNear_le (accepted : Accepted job) (weighed : job.WeighedBy counts) (i : Nat) :
    job.countNear counts i ≤ counts.sum :=
  sum_counts_le_sum accepted weighed _ (.refl _)

/-- The density of a row is the exact weight of the rows near it. -/
theorem densityAt_isCount (accepted : Accepted job) (weighed : job.WeighedBy counts) (i : Nat) :
    Binary64.IsCount (job.densityAt i) (job.countNear counts i) := by
  apply foldl_weightAt_isCount accepted weighed
  · exact fun j member => List.mem_range.1 (List.mem_filter.1 member).1
  · exact (countNear_le accepted weighed i).trans weighed.1

/-- A row is core iff the exact weight of the rows near it reaches the threshold. -/
theorem isCore_iff_le_countNear (accepted : Accepted job) (weighed : job.WeighedBy counts) (total : counts.sum < 2 ^ 53)
    (inside : i < job.data.rowCount) : job.IsCore i ↔ job.request.minObservations ≤ job.countNear counts i := by
  have short := (countNear_le accepted weighed i).trans_lt total
  rw [Job.IsCore, and_iff_right inside, (densityAt_isCount accepted weighed i).le_iff,
    Binary64.ofCount_le_ofCount_iff short]

/-- The threshold is exact on whole weights. If all rows together weigh less than two to the power of fifty-three, a row
is flagged as core iff the rows near it, itself among them, weigh at least as much as was asked for, whatever number
that was. -/
theorem coreFlags_exact (job : Job) (counts : List Nat) (sound : fault? job = none) (weighed : job.WeighedBy counts)
    (total : counts.sum < 2 ^ 53) :
    ∃ c, ClusteredAs job c ∧ c.coreFlags.length = job.data.rowCount ∧
      ∀ i < job.data.rowCount, job.Near i i ∧
        (c.coreFlags[i]? = some true ↔ job.request.minObservations ≤ job.countNear counts i) := by
  have accepted := fault?_eq_none_iff.1 sound
  obtain ⟨c, answered, described⟩ := exists_clustering sound
  refine ⟨c, answered, ?_, fun i inside => ⟨near_self accepted inside, ?_⟩⟩
  · rw [described.coreFlags, List.length_map, List.length_range]
  · rw [described.coreFlag_iff, isCore_iff_le_countNear accepted weighed total inside]

/-- Two rows that weigh one less than is the threshold after rounding, and one that weighs nothing. -/
def heavyJob : Job :=
  ⟨⟨1.0, 9007199254740993, .only .coreFlags⟩, Table.column [0.0, 0.5, 9.0],
    some (Table.column [9007199254740990.0, 1.0, -0.0])⟩

theorem coreFlags_exact_heavyJob :
    Binary64.ofCount heavyJob.request.minObservations = 9007199254740992.0 ∧
      (fault? heavyJob = none ∧ heavyJob.WeighedBy [9007199254740990, 1, 0] ∧ [9007199254740990, 1, 0].sum < 2 ^ 53) ∧
      ∃ c, ClusteredAs heavyJob c ∧ c.coreFlags.length = heavyJob.data.rowCount ∧
        ∀ i < heavyJob.data.rowCount, heavyJob.Near i i ∧
          (c.coreFlags[i]? = some true ↔
            heavyJob.request.minObservations ≤ heavyJob.countNear [9007199254740990, 1, 0] i) := by
  have sound : fault? heavyJob = none := by decide +kernel
  have weighed : heavyJob.WeighedBy [9007199254740990, 1, 0] := by
    refine ⟨by decide, ?_⟩
    exact .cons (by decide +kernel) (.cons (by decide +kernel) (.cons (by decide +kernel) .nil))
  have total : [9007199254740990, 1, 0].sum < 2 ^ 53 := by decide
  exact ⟨by decide +kernel, ⟨sound, weighed, total⟩, coreFlags_exact heavyJob _ sound weighed total⟩

/-- The bound is sharp: one row that weighs two to the power of fifty-three reaches a threshold above its weight. -/
example : (Job.mk ⟨1.0, 9007199254740993, .only .coreFlags⟩ (Table.column [0.0])
    (some (Table.column [9007199254740992.0]))).IsCore 0 := by decide +kernel

end Density

end DensityAudit
