import DensityAudit.Proofs.Density.Characterization

/-!
# Outputs that agree with each other

The four outputs of a run are tables of different types and shapes. `Consistent` says what holds between them and the
data: flags, indices and copied rows name the same rows in the same order, and these are the rows that every cluster
number occurs at. All of it follows from the clustering behind the outputs (`Describes.consistent`), in which the core
rows are one predicate of row numbers.
-/

namespace DensityAudit

namespace Density

/-- The outputs of a run and its number of clusters agree with each other and with the data. -/
structure Consistent (data : Table Float) (clusterCount : Nat) (labels : Table Label) (coreFlags : Table Bool)
    (coreRows : Table Float) (coreIndices : Table Nat) : Prop where
  labels_shape : labels.rowCount = data.rowCount ∧ labels.columnCount = 1
  coreFlags_shape : coreFlags.rowCount = data.rowCount ∧ coreFlags.columnCount = 1
  coreRows_shape : coreRows.rowCount = coreIndices.rowCount ∧ coreRows.columnCount = data.columnCount
  coreIndices_columns : coreIndices.columnCount = 1
  ascending : coreIndices.values.Pairwise (· < ·)
  flagged : ∀ i, i ∈ coreIndices.values ↔ coreFlags.get? i 0 = some true
  /-- The core rows are copies of the data rows at the core indices. -/
  copied : ∀ k i, coreIndices.get? k 0 = some i → ∃ row, data.row? i = some row ∧ coreRows.row? k = some row
  clustered : ∀ i ∈ coreIndices.values, ∃ l, labels.get? i 0 = some l ∧ 0 ≤ l
  /-- The labels that are not negative are the numbers of the clusters. -/
  numbers : ∀ l, 0 ≤ l → (l ∈ labels.values ↔ l < clusterCount)
  /-- Every cluster has a core row. -/
  carried : ∀ k < clusterCount, ∃ i ∈ coreIndices.values, labels.get? i 0 = some (k : Label)
  negative : ∀ l ∈ labels.values, l < 0 → l = -1

namespace Describes

variable {job : Job} {c : Clustering} (h : Describes job c)
include h

theorem length_coreFlags : c.coreFlags.length = job.data.rowCount := by
  rw [h.coreFlags, List.length_map, List.length_range]

/-- The core rows are the rows at the core indices. -/
theorem rows_eq_map_coreIndices : c.coreRows.rows = c.coreIndices.map job.rowAt := by
  rw [h.coreRows, h.coreIndices]

theorem rowCount_coreRows : c.coreRows.rowCount = c.coreIndices.length := by
  rw [← Table.length_rows, h.rows_eq_map_coreIndices, List.length_map]

/-- The core rows are copies of the data rows at the core indices. -/
theorem row?_coreRows {k i : Nat} (found : c.coreIndices[k]? = some i) :
    job.data.row? i = some (job.rowAt i) ∧ c.coreRows.row? k = some (job.rowAt i) := by
  obtain ⟨below, -⟩ := List.getElem?_eq_some_iff.1 found
  have inside : i < job.data.rowCount := (h.mem_coreIndices_iff.1 (List.mem_of_getElem? found)).1
  refine ⟨row?_eq_rowAt inside, ?_⟩
  rw [Table.row?_eq_getElem? (by rwa [h.rowCount_coreRows]), h.rows_eq_map_coreIndices, List.getElem?_map, found,
    Option.map_some]

/-- The labels that are not negative are the numbers of the clusters. -/
theorem mem_labels_iff {l : Label} (cluster : 0 ≤ l) : l ∈ c.labels ↔ l < c.clusterCount := by
  rw [h.reference.mem_labels_iff l cluster]
  constructor
  · rintro ⟨k, below, rfl⟩
    exact Int.ofNat_lt.2 below
  · intro below
    obtain ⟨k, rfl⟩ := Int.eq_ofNat_of_zero_le cluster
    exact ⟨k, Int.ofNat_lt.1 below, rfl⟩

/-- The first core row of a cluster has its number. -/
theorem exists_core_of_lt {k : Nat} (below : k < c.clusterCount) : ∃ i ∈ c.coreIndices, c.labels[i]? = some (k : Label) := by
  rw [h.reference.counted] at below
  obtain ⟨s, -, first, rfl⟩ := exists_leads_of_lt_ordinal below
  exact ⟨s, h.mem_coreIndices_iff.2 first.1, h.reference.numbered s first⟩

/-- All outputs of a clustering of the job agree. -/
theorem consistent :
    Consistent job.data c.clusterCount (Table.column c.labels) (Table.column c.coreFlags) c.coreRows
      (Table.column c.coreIndices) where
  labels_shape := ⟨h.reference.length, rfl⟩
  coreFlags_shape := ⟨h.length_coreFlags, rfl⟩
  coreRows_shape := ⟨h.rowCount_coreRows, h.columns⟩
  coreIndices_columns := rfl
  ascending := by
    show c.coreIndices.Pairwise (· < ·)
    rw [h.coreIndices]
    exact List.pairwise_lt_range.filter _
  flagged i := by
    rw [Table.get?_column, h.coreFlag_iff]
    exact h.mem_coreIndices_iff
  copied k i found := by
    rw [Table.get?_column] at found
    exact ⟨_, h.row?_coreRows found⟩
  clustered i member := by
    obtain ⟨k, label⟩ := h.reference.exists_label_of_core (h.mem_coreIndices_iff.1 member)
    rw [Table.get?_column]
    exact ⟨k, label, Int.natCast_nonneg k⟩
  numbers l cluster := h.mem_labels_iff cluster
  carried k below := by
    obtain ⟨i, member, label⟩ := h.exists_core_of_lt below
    exact ⟨i, member, by rwa [Table.get?_column]⟩
  negative l member below := by
    rcases h.reference.label_cases member with rfl | ⟨k, -, rfl⟩
    · rfl
    · exact absurd below (Int.not_lt.2 (Int.natCast_nonneg k))

end Describes

/-- Every job without a fault that asks for all outputs is answered, and the outputs agree with each other, with the number
of clusters and with the data. -/
theorem outputs_consistent (job : Job) (sound : fault? job = none) (everything : job.request.outputs = .all) :
    ∃ a labels coreFlags coreRows coreIndices, answer job = .ok a ∧ a.labels = .ok labels ∧ a.coreFlags = .ok coreFlags ∧
      a.coreRows = .ok coreRows ∧ a.coreIndices = .ok coreIndices ∧
      Consistent job.data a.clusterCount labels coreFlags coreRows coreIndices := by
  obtain ⟨c, answered, described⟩ := exists_clustering sound
  have found := answered .all
  have same : job.asking .all = job := by rw [Job.asking, ← everything]
  rw [same] at found
  exact ⟨_, _, _, _, _, found, rfl, rfl, rfl, rfl, described.consistent⟩

theorem outputs_consistent_borderJob :
    ∃ a labels coreFlags coreRows coreIndices, answer (borderJob.asking .all) = .ok a ∧ a.labels = .ok labels ∧
      a.coreFlags = .ok coreFlags ∧ a.coreRows = .ok coreRows ∧ a.coreIndices = .ok coreIndices ∧
      Consistent borderJob.data a.clusterCount labels coreFlags coreRows coreIndices :=
  outputs_consistent (borderJob.asking .all) (by decide +kernel) rfl

end Density

end DensityAudit
