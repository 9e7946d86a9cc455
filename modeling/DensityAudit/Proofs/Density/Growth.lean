import DensityAudit.Proofs.Density.Characterization
import DensityAudit.Proofs.Doubles.Sums

/-!
# Loosening the density parameters

With a larger radius, a lower threshold or more weight, neighbours stay neighbours (`Loosened.near`) and core
rows stay core rows (`Loosened.isCore`), because rounding keeps the order of sums and squares. The chains of core
rows remain as well, so clusters only grow and merge (`clustering_grows`).
-/

namespace DensityAudit.Density

/-- The second job has the data of the first, a radius and weights at least as large and a threshold at most as
high. -/
structure Loosened (job job' : Job) : Prop where
  data : job'.data = job.data
  radius : job.request.epsilon ≤ job'.request.epsilon
  threshold : job'.request.minObservations ≤ job.request.minObservations
  weights : ∀ i < job.data.rowCount, 0.0 ≤ job.weightAt i ∧ job.weightAt i ≤ job'.weightAt i

/-- A valid radius is finite and not negative. -/
theorem nonneg_of_isRadius {epsilon : Float} (valid : isRadius epsilon = true) :
    epsilon.isFinite = true ∧ 0.0 ≤ epsilon := by
  have zero : Float.isNaN 0.0 = false := by decide +kernel
  rw [isRadius, Bool.and_eq_true, Bool.not_eq_true', decide_eq_false_iff_not] at valid
  exact ⟨valid.1, Binary64.le_of_not_lt zero (Binary64.isNaN_of_isFinite valid.1) valid.2⟩

namespace Loosened

variable {job job' : Job} {i j : Nat} (loosened : Loosened job job')
include loosened

theorem rowAt_eq : job'.rowAt i = job.rowAt i := by
  rw [Job.rowAt, Job.rowAt, loosened.data]

/-- Neighbours stay neighbours. -/
theorem near (accepted : Accepted job) (accepted' : Accepted job') (h : job.Near i j) : job'.Near i j := by
  obtain ⟨finite, nonneg⟩ := nonneg_of_isRadius accepted.radius
  obtain ⟨finite', -⟩ := nonneg_of_isRadius accepted'.radius
  have reach := Binary64.mul_self_le_mul_self finite finite' nonneg loosened.radius
  obtain ⟨inside, inside', close⟩ := h
  refine ⟨by rwa [loosened.data], by rwa [loosened.data], ?_⟩
  rw [loosened.rowAt_eq, loosened.rowAt_eq]
  exact Binary64.le_trans close reach

/-- The weight near a row does not shrink. -/
theorem densityAt_le (accepted : Accepted job) (accepted' : Accepted job') (i : Nat) :
    job.densityAt i ≤ job'.densityAt i := by
  rw [Job.densityAt, Job.densityAt, loosened.data]
  apply Binary64.foldl_filter_le_foldl_filter
  · intro j _ close
    exact decide_eq_true (loosened.near accepted accepted' (of_decide_eq_true close))
  · intro j member
    exact (loosened.weights j (List.mem_range.1 member)).1
  · intro j member
    exact (loosened.weights j (List.mem_range.1 member)).2
  · exact Binary64.zero_le_zero
  · exact Binary64.zero_le_zero

/-- Core rows stay core rows. -/
theorem isCore (accepted : Accepted job) (accepted' : Accepted job') (h : job.IsCore i) : job'.IsCore i := by
  refine ⟨by rw [loosened.data]; exact h.1, ?_⟩
  calc Binary64.ofCount job'.request.minObservations
      ≤ Binary64.ofCount job.request.minObservations := Binary64.ofCount_le_ofCount loosened.threshold
    _ ≤ job.densityAt i := h.2
    _ ≤ job'.densityAt i := loosened.densityAt_le accepted accepted' i

end Loosened

/-- The clusters of the first clustering only grow and merge in the second. -/
structure Grows (c c' : Clustering) : Prop where
  /-- Core rows stay core rows. -/
  core : ∀ i : Nat, c.coreFlags[i]? = some true → c'.coreFlags[i]? = some true
  /-- No row of a cluster falls back to noise. -/
  clustered : ∀ (i : Nat) (l : Label), c.labels[i]? = some l → l ≠ noise → ∃ l' : Label, c'.labels[i]? = some l' ∧ l' ≠ noise
  /-- Core rows of one cluster stay together. -/
  together : ∀ i j : Nat, c.coreFlags[i]? = some true → c.coreFlags[j]? = some true → c.labels[i]? = c.labels[j]? →
    c'.labels[i]? = c'.labels[j]?

/-- Loosening the density parameters of a job only grows its clusters. -/
theorem clustering_grows (job job' : Job) (sound : fault? job = none) (sound' : fault? job' = none)
    (loosened : Loosened job job') : ∃ c c', ClusteredAs job c ∧ ClusteredAs job' c' ∧ Grows c c' := by
  have accepted := fault?_eq_none_iff.1 sound
  have accepted' := fault?_eq_none_iff.1 sound'
  obtain ⟨c, answered, described⟩ := exists_clustering sound
  obtain ⟨c', answered', described'⟩ := exists_clustering sound'
  have dense : ∀ i, job.IsCore i → job'.IsCore i := fun _ => loosened.isCore accepted accepted'
  have close : ∀ i j, job.Near i j → job'.Near i j := fun _ _ => loosened.near accepted accepted'
  refine ⟨c, c', answered, answered', ?core, ?clustered, ?together⟩
  case core =>
    intro i flagged
    exact described'.coreFlag_iff.2 (dense i (described.coreFlag_iff.1 flagged))
  case clustered =>
    intro i l found other
    obtain ⟨inside, -⟩ := List.getElem?_eq_some_iff.1 found
    rw [described.reference.length] at inside
    have inside' : i < job'.data.rowCount := by rwa [loosened.data]
    apply (described'.reference.clustered_iff inside').2
    rcases (described.reference.clustered_iff inside).1 ⟨l, found, other⟩ with core | ⟨j, core, near⟩
    · exact .inl (dense i core)
    · exact .inr ⟨j, dense j core, close i j near⟩
  case together =>
    intro i j flagged flagged' same
    have hi := described.coreFlag_iff.1 flagged
    have hj := described.coreFlag_iff.1 flagged'
    have link := (described.reference.joined i j hi hj).1 same
    exact (described'.reference.joined i j (dense i hi) (dense j hj)).2 (link.mono close dense)

/-- The rows on a line of `borderJob`, with a larger radius, a lower threshold and more weight for every row. -/
def looserJob : Job :=
  ⟨⟨1.5, 3, .only .labels⟩, borderJob.data, some (Table.column (List.replicate 7 2.0))⟩

theorem clustering_grows_looserJob :
    (fault? borderJob = none ∧ fault? looserJob = none ∧ Loosened borderJob looserJob) ∧
      ∃ c c', ClusteredAs borderJob c ∧ ClusteredAs looserJob c' ∧ Grows c c' := by
  have sound : fault? borderJob = none := by decide +kernel
  have sound' : fault? looserJob = none := by decide +kernel
  have loosened : Loosened borderJob looserJob :=
    ⟨rfl, by decide +kernel, by decide +kernel, by decide +kernel⟩
  exact ⟨⟨sound, sound', loosened⟩, clustering_grows borderJob looserJob sound sound' loosened⟩

end DensityAudit.Density
