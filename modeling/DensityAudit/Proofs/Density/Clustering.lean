import DensityAudit.Proofs.Density.Outputs
import DensityAudit.Proofs.Density.Scan
import DensityAudit.Proofs.Doubles.Magnitude

/-!
# The engine computes the reference clustering

`Job.Near` and `Job.IsCore` say in terms of a job's rows and weights alone which rows are neighbours and which
are core. They are the neighbours and the core rows of the job's graph (`adjacent_graph_iff`,
`isCore_graph_iff`), and a difference and its opposite have one square, so the graph is undirected and its
labelling is the reference clustering of the job (`isReference_graph`).
-/

namespace DensityAudit

/-! ### Neighbours and core rows of a job -/

namespace Job

def rowAt (job : Job) (i : Nat) : List Float := job.data.rows.getD i []

def weightAt (job : Job) (i : Nat) : Float :=
  match job.weights? with
  | some weights => weights.values.getD i 0.0
  | none => 1.0

/-- Rows `i` and `j` are at most the radius apart; squares are compared. -/
def Near (job : Job) (i j : Nat) : Prop :=
  i < job.data.rowCount ∧ j < job.data.rowCount ∧
    squaredDistance (job.rowAt i) (job.rowAt j) ≤ job.request.epsilon * job.request.epsilon

instance (job : Job) (i j : Nat) : Decidable (job.Near i j) := inferInstanceAs (Decidable (_ ∧ _ ∧ _))

/-- The weights of the rows near row `i`, summed in the order of the rows. -/
def densityAt (job : Job) (i : Nat) : Float :=
  (((List.range job.data.rowCount).filter fun j => decide (job.Near i j)).map job.weightAt).foldl (· + ·) 0.0

/-- The rows near row `i` have at least the required weight. -/
def IsCore (job : Job) (i : Nat) : Prop :=
  i < job.data.rowCount ∧ Binary64.ofCount job.request.minObservations ≤ job.densityAt i

instance (job : Job) (i : Nat) : Decidable (job.IsCore i) := inferInstanceAs (Decidable (_ ∧ _))

/-- Every row has a weight. -/
def Weighed (job : Job) : Prop := ∀ w, job.weights? = some w → job.data.rowCount ≤ w.values.length

end Job

/-- Distances are the same in both directions, bit by bit. -/
theorem squaredDistance_comm (p q : List Float) : squaredDistance p q = squaredDistance q p := by
  have squares : (fun x y : Float => (x - y) * (x - y)) = fun x y => (y - x) * (y - x) :=
    funext fun x => funext fun y => Binary64.square_sub_comm x y
  rw [squaredDistance, squaredDistance, List.zipWith_comm, squares]

/-- Nearness is mutual. -/
theorem Job.Near.symm {job : Job} {i j : Nat} (h : job.Near i j) : job.Near j i := by
  refine ⟨h.2.1, h.1, ?_⟩
  rw [squaredDistance_comm]
  exact h.2.2

/-- Rows that exist are near iff their squared distance is at most the squared radius. -/
theorem Job.near_iff_of_lt {job : Job} {i j : Nat} (inside : i < job.data.rowCount) (inside' : j < job.data.rowCount) :
    job.Near i j ↔ squaredDistance (job.rowAt i) (job.rowAt j) ≤ job.request.epsilon * job.request.epsilon :=
  (and_iff_right inside).trans (and_iff_right inside')

/-- A point is at no distance from itself. -/
theorem squaredDistance_self {p : List Float} (finite : ∀ x ∈ p, x.isFinite = true) : squaredDistance p p = 0.0 := by
  induction p with
  | nil => rfl
  | cons x rest ih =>
    have first : (x - x) * (x - x) = 0.0 := by
      rw [Binary64.sub_self_of_finite (finite x (List.mem_cons_self ..)), Binary64.zero_mul_zero]
    have others := ih fun y member => finite y (.tail _ member)
    rw [squaredDistance] at others ⊢
    rw [List.zipWith_cons_cons, List.foldl_cons, first, Binary64.zero_add_zero, others]

namespace Density

variable {job : Job} {i j : Nat}

/-! ### Accepted jobs -/

/-- What an accepted job fulfils. -/
structure Accepted (job : Job) : Prop where
  rows : 0 < job.data.rowCount
  columns : 0 < job.data.columnCount
  finite : allFinite job.data = true
  radius : isRadius job.request.epsilon = true
  threshold : 0 < job.request.minObservations
  weights : ∀ w, job.weights? = some w →
    w.rowCount = job.data.rowCount ∧ w.columnCount = 1 ∧ allFinite w = true

theorem ite_some_eq_none {α : Type} {p : Prop} [Decidable p] {fault : α} {others : Option α} :
    (if p then some fault else others) = none ↔ ¬ p ∧ others = none := by
  by_cases h : p <;> simp [h]

/-- Weights have no fault iff there is one finite weight for each row. -/
theorem weightFault?_eq_none_iff {rows : Nat} {w : Table Float} :
    weightFault? rows w = none ↔ w.rowCount = rows ∧ w.columnCount = 1 ∧ allFinite w = true := by
  rw [weightFault?, ite_some_eq_none, ite_some_eq_none, Bool.not_eq_true', Bool.not_eq_false]
  constructor
  · rintro ⟨shape, finite, -⟩
    exact ⟨by omega, by omega, finite⟩
  · rintro ⟨rows, columns, finite⟩
    exact ⟨by omega, finite, rfl⟩

/-- A job has no fault iff it fulfils every condition. -/
theorem fault?_eq_none_iff : fault? job = none ↔ Accepted job := by
  simp only [fault?, ite_some_eq_none, Option.bind_eq_none_iff, weightFault?_eq_none_iff, Bool.not_eq_true',
    Bool.not_eq_false]
  constructor
  · rintro ⟨rows, columns, finite, radius, threshold, weights⟩
    exact ⟨by omega, by omega, finite, radius, by omega, weights⟩
  · rintro ⟨rows, columns, finite, radius, threshold, weights⟩
    exact ⟨by omega, by omega, finite, radius, by omega, weights⟩

/-- Every row of an accepted job has a weight. -/
theorem Accepted.weighed (accepted : Accepted job) : job.Weighed := by
  intro w given
  obtain ⟨rows, single, -⟩ := accepted.weights w given
  rw [w.length_values, rows, single, Nat.mul_one]

/-- Rows of finite coordinates are near themselves. -/
theorem near_refl (finite : allFinite job.data = true) (defined : job.request.epsilon.isNaN = false)
    (inside : i < job.data.rowCount) : job.Near i i := by
  have coordinates : ∀ x ∈ job.rowAt i, x.isFinite = true := by
    intro x member
    apply List.all_eq_true.1 finite
    rw [← job.data.flatten_rows]
    rw [Job.rowAt, List.getD_eq_getElem?_getD, List.getElem?_eq_getElem (by simpa using inside)] at member
    exact List.mem_flatten_of_mem (List.getElem_mem _) member
  refine ⟨inside, inside, ?_⟩
  rw [squaredDistance_self coordinates]
  exact Binary64.zero_le_square defined

/-- Every row of an accepted job is near itself. -/
theorem near_self (accepted : Accepted job) (inside : i < job.data.rowCount) : job.Near i i := by
  have valid := accepted.radius
  rw [isRadius, Bool.and_eq_true] at valid
  exact near_refl accepted.finite (Binary64.isNaN_of_isFinite valid.1) inside

/-! ### The graph of a job -/

/-- If every row has a weight, the observations are the rows with their weights. -/
theorem observations_eq (weighed : job.Weighed) :
    observations job = (List.range job.data.rowCount).map fun i => ⟨job.rowAt i, job.weightAt i⟩ := by
  apply List.ext_getElem?
  intro i
  have rows : job.data.rows.length = job.data.rowCount := job.data.length_rows
  by_cases inside : i < job.data.rowCount
  · have row : job.data.rows[i]? = some (job.rowAt i) := by
      rw [Job.rowAt, List.getD_eq_getElem?_getD, List.getElem?_eq_getElem (by omega), Option.getD_some]
    have weight : (rowWeights job)[i]? = some (job.weightAt i) := by
      rw [rowWeights, Job.weightAt]
      cases given : job.weights? with
      | none => simp [inside]
      | some w =>
        have filled := weighed w given
        simp only
        rw [List.getD_eq_getElem?_getD, List.getElem?_eq_getElem (by omega), Option.getD_some]
    rw [observations, List.getElem?_zipWith, row, weight]
    simp [inside]
  · rw [observations, List.getElem?_zipWith, List.getElem?_eq_none (by omega)]
    simp [inside]

theorem length_observations (weighed : job.Weighed) : (observations job).length = job.data.rowCount := by
  rw [observations_eq weighed, List.length_map, List.length_range]

theorem size_graph (weighed : job.Weighed) : (graph job).size = job.data.rowCount := length_observations weighed

theorem getElem_observations (weighed : job.Weighed) (inside : i < (observations job).length) :
    (observations job)[i] = ⟨job.rowAt i, job.weightAt i⟩ := by
  simp only [observations_eq weighed, List.getElem_map, List.getElem_range]

/-- The neighbours in the graph are the rows that are near. -/
theorem adjacent_graph_iff (weighed : job.Weighed) : (graph job).Adjacent i j ↔ job.Near i j := by
  have rows := length_observations weighed
  by_cases inside : i < (observations job).length
  · rw [Graph.Adjacent, graph, Graph.near_ofObservations inside, mem_neighbours_iff, getElem_observations weighed]
    constructor
    · rintro ⟨b, found, close⟩
      obtain ⟨inside', rfl⟩ := List.getElem?_eq_some_iff.1 found
      rw [getElem_observations weighed] at close
      exact ⟨by omega, by omega, of_decide_eq_true close⟩
    · rintro ⟨-, inside', close⟩
      refine ⟨_, List.getElem?_eq_getElem (by omega), ?_⟩
      rw [getElem_observations weighed]
      exact decide_eq_true close
  · refine iff_of_false ?_ fun h => inside (by have := h.1; omega)
    rw [Graph.Adjacent, graph, Graph.near_ofObservations_of_le (by omega)]
    exact List.not_mem_nil

/-- The weight of a neighbourhood is the density at its row. -/
theorem neighbourhoodWeight_eq (weighed : job.Weighed) (inside : i < job.data.rowCount) :
    neighbourhoodWeight (job.request.epsilon * job.request.epsilon) (observations job) ⟨job.rowAt i, job.weightAt i⟩ =
      job.densityAt i := by
  rw [neighbourhoodWeight, Job.densityAt, observations_eq weighed, List.filter_map, List.map_map]
  congr 2
  apply List.filter_congr
  intro j member
  rw [Function.comp_apply, near, decide_eq_decide]
  exact (Job.near_iff_of_lt inside (List.mem_range.1 member)).symm

/-- The core rows of the graph are those with enough weight near them. -/
theorem isCore_graph_iff (weighed : job.Weighed) : (graph job).IsCore i ↔ job.IsCore i := by
  have rows := length_observations weighed
  by_cases inside : i < (observations job).length
  · rw [Graph.IsCore, graph, Graph.core_ofObservations inside, getElem_observations weighed, isCore,
      neighbourhoodWeight_eq weighed (by omega), decide_eq_true_iff]
    exact (and_iff_right (by omega)).symm
  · refine iff_of_false ?_ fun h => inside (by have := h.1; omega)
    rw [Graph.IsCore, graph, Graph.core_ofObservations_of_le (by omega)]
    exact Bool.false_ne_true

theorem undirected_graph (accepted : Accepted job) : (graph job).Undirected where
  symm i j near := by
    rw [adjacent_graph_iff accepted.weighed] at near ⊢
    exact near.symm
  inside i core := by
    rw [size_graph accepted.weighed]
    exact ((isCore_graph_iff accepted.weighed).1 core).1

/-! ### The clustering of a job -/

/-- The labelling of an accepted job's graph is the reference clustering of the job. -/
theorem isReference_graph (accepted : Accepted job) :
    IsReference job.Near job.IsCore job.data.rowCount (graph job).labels (graph job).clusterCount := by
  have near : (graph job).Adjacent = job.Near :=
    funext fun i => funext fun j => propext (adjacent_graph_iff accepted.weighed)
  have core : (graph job).IsCore = job.IsCore := funext fun i => propext (isCore_graph_iff accepted.weighed)
  have found := Graph.isReference (undirected_graph accepted)
  rwa [near, core, size_graph accepted.weighed] at found

/-- A job without a fault is answered with its reference clustering: the labels, if they were requested, and the
number of clusters are the only ones that fit the neighbourhoods and the core rows of the job. -/
theorem answer_reference (job : Job) (sound : fault? job = none) :
    ∃ a, answer job = .ok a ∧
      (job.request.outputs.contains .labels = true → a.labels = .ok (Table.column (graph job).labels)) ∧
      IsReference job.Near job.IsCore job.data.rowCount (graph job).labels a.clusterCount ∧
      ∀ labels clusterCount, IsReference job.Near job.IsCore job.data.rowCount labels clusterCount →
        labels = (graph job).labels ∧ clusterCount = a.clusterCount := by
  have reference := isReference_graph (fault?_eq_none_iff.1 sound)
  obtain ⟨rows, answered⟩ := answer_asking sound
  obtain ⟨a, found, holds⟩ := answered job.request.outputs
  rw [← holds.clusterCount] at reference
  refine ⟨a, found, fun asked => ?_, reference, fun labels clusterCount other => other.unique reference⟩
  have read := holds.read .labels
  rwa [if_pos asked] at read

/-- Seven rows on a line, of which row three is near a core row on either side. -/
def borderJob : Job :=
  ⟨⟨1.0, 4, .only .labels⟩, Table.column [-1.0, -1.0, 0.0, 1.0, 2.0, 3.0, 3.0], none⟩

theorem answer_reference_borderJob :
    (¬ borderJob.IsCore 3 ∧ borderJob.IsCore 2 ∧ borderJob.Near 3 2 ∧ borderJob.IsCore 4 ∧ borderJob.Near 3 4) ∧
    ∃ a, answer borderJob = .ok a ∧
      (borderJob.request.outputs.contains .labels = true → a.labels = .ok (Table.column (graph borderJob).labels)) ∧
      IsReference borderJob.Near borderJob.IsCore borderJob.data.rowCount (graph borderJob).labels a.clusterCount ∧
      ∀ labels clusterCount, IsReference borderJob.Near borderJob.IsCore borderJob.data.rowCount labels clusterCount →
        labels = (graph borderJob).labels ∧ clusterCount = a.clusterCount :=
  ⟨by decide +kernel, answer_reference borderJob (by decide +kernel)⟩

end Density

end DensityAudit
