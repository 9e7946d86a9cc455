import DensityAudit.Proofs.Density.Clustering
import DensityAudit.Proofs.Table.Arrange

/-!
# The outputs of a job as one clustering

A `Clustering` holds everything that can be asked about a job; an answer is a selection from it. The clustering
that the answers to a job are taken from is the one that fits the job's neighbourhoods and core rows
(`clusteredAs_iff`), so two jobs are compared by their rows alone, with no look at how they are answered.
-/

namespace DensityAudit.Density

/-- All outputs of one labelling. -/
@[ext]
structure Clustering where
  clusterCount : Nat
  labels : List Label
  coreFlags : List Bool
  coreRows : Table Float
  coreIndices : List Nat

/-- The answer that shows the requested outputs. -/
def Clustering.answer (c : Clustering) (asked : OutputSet) : Answer where
  outputs := asked
  clusterCount := c.clusterCount
  labels? := if asked.contains .labels then some (Table.column c.labels) else none
  coreFlags? := if asked.contains .coreFlags then some (Table.column c.coreFlags) else none
  coreRows? := if asked.contains .coreRows then some c.coreRows else none
  coreIndices? := if asked.contains .coreIndices then some (Table.column c.coreIndices) else none

/-- Whichever outputs are requested of a job, it is answered with those of the clustering. -/
def ClusteredAs (job : Job) (c : Clustering) : Prop :=
  ∀ outputs, answer (job.asking outputs) = .ok (c.answer outputs)

/-- The clustering fits the neighbours and the core rows of a job. -/
structure Describes (job : Job) (c : Clustering) : Prop where
  reference : IsReference job.Near job.IsCore job.data.rowCount c.labels c.clusterCount
  coreFlags : c.coreFlags = (List.range job.data.rowCount).map fun i => decide (job.IsCore i)
  coreIndices : c.coreIndices = (List.range job.data.rowCount).filter fun i => decide (job.IsCore i)
  coreRows : c.coreRows.rows = ((List.range job.data.rowCount).filter fun i => decide (job.IsCore i)).map job.rowAt
  columns : c.coreRows.columnCount = job.data.columnCount

variable {job : Job} {c d : Clustering}

/-- Only one clustering fits. -/
theorem Describes.eq (h : Describes job c) (h' : Describes job d) : c = d := by
  obtain ⟨labels, count⟩ := h.reference.unique h'.reference
  have flags := h.coreFlags.trans h'.coreFlags.symm
  have indices := h.coreIndices.trans h'.coreIndices.symm
  have rows : c.coreRows = d.coreRows :=
    Table.ext_rows (h.columns.trans h'.columns.symm) (h.coreRows.trans h'.coreRows.symm)
  exact Clustering.ext count labels flags rows indices

/-- The rows flagged as core are the core rows. -/
theorem Describes.coreFlag_iff (h : Describes job c) {i : Nat} : c.coreFlags[i]? = some true ↔ job.IsCore i := by
  rw [h.coreFlags, List.getElem?_map]
  by_cases inside : i < job.data.rowCount
  · simp [List.getElem?_range inside]
  · have outside : (List.range job.data.rowCount)[i]? = none := List.getElem?_eq_none (by simpa using inside)
    rw [outside]
    exact ⟨nofun, fun core => absurd core.1 inside⟩

/-- The core indices are the core rows. -/
theorem Describes.mem_coreIndices_iff (h : Describes job c) {i : Nat} : i ∈ c.coreIndices ↔ job.IsCore i := by
  rw [h.coreIndices, List.mem_filter, List.mem_range, decide_eq_true_iff]
  exact and_iff_right_of_imp fun core => core.1

/-- The answers show one clustering only. -/
theorem ClusteredAs.eq (h : ClusteredAs job c) (h' : ClusteredAs job d) : c = d := by
  have same : c.answer .all = d.answer .all := Except.ok.inj ((h .all).symm.trans (h' .all))
  have columns : ∀ {α : Type} {xs ys : List α}, some (Table.column xs) = some (Table.column ys) → xs = ys :=
    fun same => congrArg Table.values (Option.some.inj same)
  have count : c.clusterCount = d.clusterCount := congrArg Answer.clusterCount same
  have labels := columns (congrArg Answer.labels? same)
  have flags := columns (congrArg Answer.coreFlags? same)
  have rows : c.coreRows = d.coreRows := Option.some.inj (congrArg Answer.coreRows? same)
  have indices := columns (congrArg Answer.coreIndices? same)
  exact Clustering.ext count labels flags rows indices

theorem length_weights (accepted : Accepted job) {w : Table Float} (given : job.weights? = some w) :
    w.values.length = job.data.rowCount := by
  obtain ⟨rows, single, -⟩ := accepted.weights w given
  rw [w.length_values, rows, single, Nat.mul_one]

theorem rows_eq_map_range (data : Table Float) :
    data.rows = (List.range data.rowCount).map fun i => data.rows.getD i [] := by
  rw [← data.length_rows, map_getD_range]

/-- A row of the data is read by its index. -/
theorem row?_eq_rowAt {i : Nat} (inside : i < job.data.rowCount) : job.data.row? i = some (job.rowAt i) := by
  rw [Table.row?_eq_getElem? inside, Job.rowAt, List.getD_eq_getElem?_getD,
    List.getElem?_eq_getElem (by rwa [Table.length_rows]), Option.getD_some]

/-- The core rows of the graph are those of the job. -/
theorem core_graph (weighed : job.Weighed) : (graph job).core = fun i => decide (job.IsCore i) := by
  funext i
  rw [Bool.eq_iff_iff, decide_eq_true_iff]
  exact isCore_graph_iff weighed

/-- The rows that are picked by their flags are the core rows in order. -/
theorem picked_eq (weighed : job.Weighed) :
    ((job.data.rows.zip (graph job).coreFlags).filter Prod.snd).map Prod.fst =
      ((List.range job.data.rowCount).filter fun i => decide (job.IsCore i)).map job.rowAt := by
  rw [Graph.coreFlags, size_graph weighed, core_graph weighed, rows_eq_map_range, List.zip_map', List.filter_map,
    List.map_map]
  rfl

/-- The rows of the table of core rows are the core rows in order. -/
theorem rows_of_coreRows (accepted : Accepted job) {t : Table Float} (built : coreRows job.data (graph job) = .ok t) :
    t.rows = ((List.range job.data.rowCount).filter fun i => decide (job.IsCore i)).map job.rowAt ∧
      t.columnCount = job.data.columnCount := by
  rw [coreRows] at built
  cases wrapped : Table.wrap (((job.data.rows.zip (graph job).coreFlags).filter Prod.snd).map Prod.fst).flatten
      ((job.data.rows.zip (graph job).coreFlags).filter Prod.snd).length job.data.columnCount with
  | error e => rw [wrapped] at built; cases built
  | ok s =>
    rw [wrapped] at built
    cases built
    obtain ⟨values, rows, columns⟩ := Table.wrap_eq_ok_iff.1 wrapped
    refine ⟨?_, columns⟩
    have widths : ∀ row ∈ ((job.data.rows.zip (graph job).coreFlags).filter Prod.snd).map Prod.fst,
        row.length = job.data.columnCount := by
      intro row member
      obtain ⟨pair, kept, rfl⟩ := List.mem_map.1 member
      exact Table.length_of_mem_rows (List.of_mem_zip (List.mem_filter.1 kept).1).1
    rw [← picked_eq accepted.weighed, Table.rows, values, rows, columns, ← List.length_map (f := Prod.fst), Table.pieces_flatten widths]

/-- A job without a fault is answered from a clustering that fits it. -/
theorem exists_clustering (sound : fault? job = none) : ∃ c, ClusteredAs job c ∧ Describes job c := by
  have accepted := fault?_eq_none_iff.1 sound
  obtain ⟨rows, built⟩ := exists_coreRows job.data (graph job)
  refine ⟨⟨(graph job).clusterCount, (graph job).labels, (graph job).coreFlags, rows, (graph job).coreIndices⟩, ?_, ?_⟩
  · intro outputs
    rw [answer, fault?_asking, sound]
    show (if outputs.contains .coreRows then (coreRows job.data (graph job)).map _ else _) = _
    rw [built]
    simp only [Clustering.answer]
    cases outputs.contains .coreRows <;> rfl
  · obtain ⟨kept, columns⟩ := rows_of_coreRows accepted built
    refine ⟨isReference_graph accepted, ?_, ?_, kept, columns⟩
    · rw [Graph.coreFlags, size_graph accepted.weighed, core_graph accepted.weighed]
    · rw [Graph.coreIndices, size_graph accepted.weighed, core_graph accepted.weighed]

/-- The answers to a job without a fault are taken from the clustering that fits it. -/
theorem clusteredAs_iff (sound : fault? job = none) : ClusteredAs job c ↔ Describes job c := by
  obtain ⟨d, answered, described⟩ := exists_clustering sound
  constructor
  · intro h
    rwa [h.eq answered]
  · intro h
    rwa [h.eq described]

end DensityAudit.Density
