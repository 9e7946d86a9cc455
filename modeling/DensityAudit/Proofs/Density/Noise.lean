import DensityAudit.Proofs.Density.Picked
import DensityAudit.Proofs.Doubles.Sums

/-!
# Dropping noise

Noise rows lend their weight to the rows near them, but never to a core row, since whatever is near a core row is
not noise. Without them core rows keep their densities (`densityAt_clustered_of_core`) and other rows have at most
what they had (`densityAt_clustered_le`), so the same rows are core and the rest is clustered as before
(`clustering_without_noise`).
-/

namespace DensityAudit.Density

/-- The rows outside noise, in order. -/
def Clustering.clustered (c : Clustering) : List Nat :=
  (List.range c.labels.length).filter fun i => c.labels.getD i noise != noise

/-- The second clustering is the first without its noise. -/
structure Denoised (c d : Clustering) : Prop where
  clusterCount : d.clusterCount = c.clusterCount
  labels : d.labels = c.labels.filter fun l => l != noise
  coreFlags : d.coreFlags = pick c.clustered c.coreFlags
  /-- No row has become noise. -/
  quiet : noise ∉ d.labels

variable {job : Job} {c d : Clustering} {i j k : Nat}

/-- Weights that are absent or not negative are not negative row by row. -/
theorem weightAt_nonneg (accepted : Accepted job) (nonneg : ∀ w, job.weights? = some w → ∀ x ∈ w.values, 0.0 ≤ x)
    (inside : i < job.data.rowCount) : 0.0 ≤ job.weightAt i := by
  rw [Job.weightAt]
  cases given : job.weights? with
  | none =>
    rw [← Binary64.ofCount_one]
    exact Binary64.ofCount_nonneg 1
  | some w =>
    have fits : i < w.values.length := by rwa [length_weights accepted given]
    show 0.0 ≤ w.values.getD i 0.0
    rw [List.getD_eq_getElem _ _ fits]
    exact nonneg w given _ (List.getElem_mem fits)

section

variable (accepted : Accepted job) (described : Describes job c)
include described

/-- A row is outside noise iff it is core or near a core row. -/
theorem mem_clustered_iff : i ∈ c.clustered ↔ i < job.data.rowCount ∧ (job.IsCore i ∨ ∃ j, job.IsCore j ∧ job.Near i j) := by
  rw [Clustering.clustered, List.mem_filter, List.mem_range, described.reference.length, bne_iff_ne]
  apply and_congr_right
  intro inside
  have fits : i < c.labels.length := by rwa [described.reference.length]
  rw [← described.reference.clustered_iff inside, List.getD_eq_getElem _ _ fits, List.getElem?_eq_getElem fits]
  simp

theorem clustered_inside : ∀ i ∈ c.clustered, i < job.data.rowCount :=
  fun _ member => ((mem_clustered_iff described).1 member).1

/-- What is near a core row is not noise. -/
theorem mem_clustered_of_near (core : job.IsCore i) (close : job.Near i j) : j ∈ c.clustered :=
  (mem_clustered_iff described).2 ⟨close.2.1, .inr ⟨i, core, close.symm⟩⟩

theorem mem_clustered_of_core (core : job.IsCore i) : i ∈ c.clustered :=
  (mem_clustered_iff described).2 ⟨core.1, .inl core⟩

theorem filter_clustered (p : Nat → Bool) :
    c.clustered.filter p = (List.range job.data.rowCount).filter fun j => p j && c.labels.getD j noise != noise := by
  rw [Clustering.clustered, described.reference.length, List.filter_filter]

omit described in
/-- The places of the rows that stay are ascending. -/
theorem placeAt_clustered_mono (hj : j < c.clustered.length) (le : i ≤ j) :
    placeAt c.clustered i ≤ placeAt c.clustered j := by
  have ascending : c.clustered.Pairwise (· < ·) := List.pairwise_lt_range.filter _
  rcases Nat.eq_or_lt_of_le le with rfl | less
  · exact Nat.le_refl _
  · rw [placeAt, placeAt, List.getD_eq_getElem _ _ hj, List.getD_eq_getElem _ _ (Nat.lt_trans less hj)]
    exact Nat.le_of_lt (List.pairwise_iff_getElem.1 ascending i j _ hj less)

include accepted

/-- A core row has the weight near it that it had. -/
theorem densityAt_clustered_of_core (hk : k < c.clustered.length) (core : job.IsCore (placeAt c.clustered k)) :
    job.densityAt (placeAt c.clustered k) = (job.pick c.clustered).densityAt k := by
  have kept : (c.clustered.filter fun j => decide (job.Near (placeAt c.clustered k) j)) =
      (List.range job.data.rowCount).filter fun j => decide (job.Near (placeAt c.clustered k) j) := by
    rw [filter_clustered described]
    apply List.filter_congr
    intro j _
    cases close : decide (job.Near (placeAt c.clustered k) j) with
    | false => rfl
    | true =>
      have stays := mem_clustered_of_near described core (of_decide_eq_true close)
      rw [Clustering.clustered, List.mem_filter] at stays
      rw [stays.2]
      rfl
  rw [densityAt_pick (clustered_inside described) accepted hk, kept]
  rfl

/-- No row has more weight near it than it had. -/
theorem densityAt_clustered_le (nonneg : ∀ i < job.data.rowCount, 0.0 ≤ job.weightAt i) (hk : k < c.clustered.length) :
    (job.pick c.clustered).densityAt k ≤ job.densityAt (placeAt c.clustered k) := by
  rw [densityAt_pick (clustered_inside described) accepted hk, Job.densityAt, filter_clustered described]
  apply Binary64.foldl_filter_le_foldl_filter
  · intro j _ both
    rw [Bool.and_eq_true] at both
    exact both.1
  · exact fun j member => nonneg j (List.mem_range.1 member)
  · intro j member
    have weight := nonneg j (List.mem_range.1 member)
    exact Binary64.le_refl (Binary64.zero_le_iff.1 weight).1
  · exact Binary64.zero_le_zero
  · exact Binary64.zero_le_zero

variable (nonneg : ∀ i < job.data.rowCount, 0.0 ≤ job.weightAt i)
include nonneg

/-- The rows that stay are core as they were. -/
theorem isCore_clustered_iff (hk : k < c.clustered.length) :
    (job.pick c.clustered).IsCore k ↔ job.IsCore (placeAt c.clustered k) := by
  have inside := clustered_inside described
  constructor
  · intro core
    refine ⟨inside _ (placeAt_mem hk), ?_⟩
    exact Binary64.le_trans core.2 (densityAt_clustered_le accepted described nonneg hk)
  · intro core
    have rows : k < (job.pick c.clustered).data.rowCount := by rwa [rowCount_pick inside]
    exact ((placed_pick inside).isCore_iff rows (densityAt_clustered_of_core accepted described hk core)).2 core

/-- A row that is left stands for the row it was. -/
theorem represents_clustered (some : c.clustered ≠ []) :
    Represents (placeAt c.clustered) (job.pick c.clustered).data.rowCount (job.pick c.clustered).Near
      (job.pick c.clustered).IsCore job.Near job.IsCore := by
  have inside := clustered_inside described
  have rows := rowCount_pick inside
  apply (placed_pick inside).represents (accepted_pick inside accepted some)
  · intro i j hj le
    rw [rows] at hj
    exact placeAt_clustered_mono hj le
  · intro k hk
    rw [rows] at hk
    exact isCore_clustered_iff accepted described nonneg hk
  · intro k t _ core _
    rw [rows]
    exact exists_placeAt (mem_clustered_of_core described core)

/-- The rows that stay have the labels that they had. -/
theorem labels_clustered (some : c.clustered ≠ []) (described' : Describes (job.pick c.clustered) d) :
    d.labels = pick c.clustered c.labels := by
  have inside := clustered_inside described
  have rows := rowCount_pick inside
  have r := represents_clustered accepted described nonneg some
  have fits : ∀ i ∈ c.clustered, i < c.labels.length := by rwa [described.reference.length]
  have numbered : ∀ s, Leads (job.pick c.clustered).Near (job.pick c.clustered).IsCore s →
      ordinal job.Near job.IsCore (placeAt c.clustered s) =
        ordinal (job.pick c.clustered).Near (job.pick c.clustered).IsCore s := by
    intro s
    apply r.ordinal_apply
    intro t leads
    rw [rows]
    exact exists_placeAt (mem_clustered_of_core described leads.1)
  apply List.ext_getElem?
  intro k
  by_cases hk : k < c.clustered.length
  · have hk' : k < (job.pick c.clustered).data.rowCount := by rwa [rows]
    rw [getElem?_pick fits hk, r.labels_eq described'.reference described.reference numbered hk' (inside _ (placeAt_mem hk))]
  · rw [List.getElem?_eq_none, List.getElem?_eq_none]
    · rw [length_pick fits]
      omega
    · rw [described'.reference.length, rows]
      omega

end

/-- Noise can be dropped without effect. If the weights are absent or not negative and some row is not noise, the job
without its noise rows has the labels and the core flags of the rows that stay, and as many clusters. -/
theorem clustering_without_noise (job : Job) (sound : fault? job = none)
    (nonneg : ∀ w, job.weights? = some w → ∀ x ∈ w.values, 0.0 ≤ x) :
    ∃ c, ClusteredAs job c ∧
      ((∃ l ∈ c.labels, l ≠ noise) → ∃ d, ClusteredAs (job.pick c.clustered) d ∧ Denoised c d) := by
  have accepted := fault?_eq_none_iff.1 sound
  have nonneg' : ∀ i < job.data.rowCount, 0.0 ≤ job.weightAt i := fun _ => weightAt_nonneg accepted nonneg
  obtain ⟨c, answered, described⟩ := exists_clustering sound
  refine ⟨c, answered, ?_⟩
  rintro ⟨l, member, other⟩
  have inside := clustered_inside described
  have some : c.clustered ≠ [] := by
    obtain ⟨i, hi, rfl⟩ := List.mem_iff_getElem.1 member
    apply List.ne_nil_of_mem (a := i)
    rw [Clustering.clustered, List.mem_filter, List.mem_range, List.getD_eq_getElem _ _ hi, bne_iff_ne]
    exact ⟨hi, other⟩
  have accepted' := accepted_pick inside accepted some
  obtain ⟨d, answered', described'⟩ := exists_clustering (fault?_eq_none_iff.2 accepted')
  have labels : d.labels = c.labels.filter fun l => l != noise := by
    rw [labels_clustered accepted described nonneg' some described']
    exact pick_filter_range (fun l => l != noise) c.labels noise
  refine ⟨d, answered', ?clusterCount, labels, ?coreFlags, ?quiet⟩
  case clusterCount =>
    rw [described.reference.counted, described'.reference.counted]
    apply (represents_clustered accepted described nonneg' some).ordinal_rows
    · intro t leads
      rw [rowCount_pick inside]
      exact exists_placeAt (mem_clustered_of_core described leads.1)
    · exact (placed_pick inside).inside
  case coreFlags =>
    exact coreFlags_pick inside described described' fun k hk => isCore_clustered_iff accepted described nonneg' hk
  case quiet =>
    rw [labels, List.mem_filter]
    exact fun kept => bne_iff_ne.1 kept.2 rfl

/-- Six rows on a line: the fourth one is core, and the last one is noise although it is near a row of the cluster. -/
def scatteredJob : Job :=
  ⟨⟨1.0, 4, .only .labels⟩, Table.column [9.0, 0.0, 0.0, 0.5, 1.25, 2.0], some (Table.column [2.0, 1.0, 1.0, 1.0, 1.0, 0.5])⟩

theorem clustering_without_noise_scatteredJob :
    (fault? scatteredJob = none ∧ ∀ w, scatteredJob.weights? = some w → ∀ x ∈ w.values, 0.0 ≤ x) ∧
      ∃ c, ClusteredAs scatteredJob c ∧ c.labels[5]? = some noise ∧ (∃ l ∈ c.labels, l ≠ noise) ∧
        ∃ d, ClusteredAs (scatteredJob.pick c.clustered) d ∧ Denoised c d := by
  have sound : fault? scatteredJob = none := by decide +kernel
  have nonneg : ∀ w, scatteredJob.weights? = some w → ∀ x ∈ w.values, 0.0 ≤ x := by
    rintro w ⟨⟩
    decide +kernel
  obtain ⟨c, answered, dropped⟩ := clustering_without_noise scatteredJob sound nonneg
  have reference := ((clusteredAs_iff sound).1 answered).reference
  have alone : ∀ j < 6, scatteredJob.IsCore j → ¬ scatteredJob.Near 5 j := by decide +kernel
  have core : scatteredJob.IsCore 3 := by decide +kernel
  have last : c.labels[5]? = some noise :=
    reference.noise 5 (by decide) (by decide +kernel) fun j dense => alone j dense.1 dense
  have clustered : ∃ l ∈ c.labels, l ≠ noise := by
    obtain ⟨l, found, other⟩ := (reference.clustered_iff core.1).2 (.inl core)
    exact ⟨l, List.mem_of_getElem? found, other⟩
  exact ⟨⟨sound, nonneg⟩, c, answered, last, clustered, dropped clustered⟩

end DensityAudit.Density
