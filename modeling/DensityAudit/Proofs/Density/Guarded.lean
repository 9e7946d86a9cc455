import DensityAudit.Proofs.Density.Consistency
import DensityAudit.Proofs.Density.Walk

/-!
# Nothing that does not exist is accessed

If every row has a weight, each checked function finds what it accesses and has the result of its unchecked counterpart. Rows,
weights and flags are indexed by rows of the data only, so the accesses find what the graph of the job says (`shows_graph`),
and a cluster is grown as in that graph (`Shows.expand?_eq`). A scan never starts more clusters than rows it has seen, which
keeps their numbers in range (`exists_scanned`).
-/

namespace DensityAudit.Density

/-- The places of those values of a list that pass a test. -/
theorem map_snd_filter_zipIdx {α : Type} (f : Nat → α) (p : α → Bool) (n : Nat) :
    ((((List.range n).map f).zipIdx).filter fun x => p x.1).map Prod.snd = (List.range n).filter fun i => p (f i) := by
  have paired : ((List.range n).map f).zipIdx = (List.range n).map fun i => (f i, i) := by
    have places : (List.range n).map id = List.range' 0 n := by rw [List.map_id, List.range_eq_range']
    rw [List.zipIdx_eq_zip_range', List.length_map, List.length_range, ← places, List.zip_map']
    rfl
  rw [paired, List.filter_map, List.map_map]
  exact List.map_id _

namespace Guarded

variable {job : Job} {i j : Nat} {progress : Progress}

/-! ### Neighbours and core rows -/

abbrev reach (job : Job) : Float := job.request.epsilon * job.request.epsilon

section

variable (weighed : job.Weighed)
include weighed

theorem near_graph_eq (inside : i < job.data.rowCount) :
    (graph job).near i = (List.range job.data.rowCount).filter fun j => decide (job.Near i j) := by
  have within : i < (observations job).length := by rwa [length_observations weighed]
  rw [graph, Graph.near_ofObservations within, neighbours, getElem_observations weighed, observations_eq weighed,
    map_snd_filter_zipIdx]
  exact List.filter_congr fun j member => decide_eq_decide.2 (Job.near_iff_of_lt inside (List.mem_range.1 member)).symm

theorem lt_of_mem_near (member : j ∈ (graph job).near i) : j < job.data.rowCount :=
  ((adjacent_graph_iff weighed).1 member).2.1

/-- A row that exists has its neighbours read without an access beyond the table. -/
theorem near?_eq (inside : i < job.data.rowCount) : near? job.data (reach job) i = some ((graph job).near i) := by
  rw [near?, row?_eq_rowAt inside, Option.map_some, near_graph_eq weighed inside, rows_eq_map_range,
    map_snd_filter_zipIdx _ fun point => decide (squaredDistance (job.rowAt i) point ≤ reach job)]
  congr 1
  exact List.filter_congr fun j member => decide_eq_decide.2 (Job.near_iff_of_lt inside (List.mem_range.1 member)).symm

theorem weight?_eq (inside : j < job.data.rowCount) : weight? job.weights? j = some (job.weightAt j) := by
  cases given : job.weights? with
  | none => simp [weight?, Job.weightAt, given]
  | some w =>
    have within : j < w.values.length := Nat.lt_of_lt_of_le inside (weighed w given)
    simp [weight?, Job.weightAt, given, within]

theorem core?_eq (inside : i < job.data.rowCount) :
    core? job.data (reach job) job.weights? (Binary64.ofCount job.request.minObservations) i =
      some ((graph job).core i) := by
  have weights : ((graph job).near i).mapM (weight? job.weights?) = some (((graph job).near i).map job.weightAt) :=
    mapM_eq_some_map fun j member => weight?_eq weighed (lt_of_mem_near weighed member)
  have dense : (Binary64.ofCount job.request.minObservations ≤ job.densityAt i) ↔ job.IsCore i :=
    (and_iff_right inside).symm
  simp only [core?, near?_eq weighed inside, weights, Option.bind_eq_bind, Option.bind_some, Option.pure_def]
  rw [near_graph_eq weighed inside, core_graph weighed, ← Job.densityAt]
  simp only [dense]

theorem cores_eq : (List.range job.data.rowCount).mapM
    (core? job.data (reach job) job.weights? (Binary64.ofCount job.request.minObservations)) =
      some (graph job).coreFlags := by
  rw [Graph.coreFlags, size_graph weighed]
  exact mapM_eq_some_map fun i member => core?_eq weighed (List.mem_range.1 member)

theorem getElem?_coreFlags (inside : i < job.data.rowCount) :
    (graph job).coreFlags[i]? = some ((graph job).core i) := by
  rw [Graph.coreFlags, size_graph weighed, List.getElem?_map, List.getElem?_range inside, Option.map_some]

/-! ### Growing one cluster -/

/-- The checked accesses find what the graph of the job says. -/
theorem shows_graph : Shows job.data (reach job) (graph job).coreFlags (graph job) where
  near _ := near?_eq weighed
  inside _ _ := lt_of_mem_near weighed
  core _ := getElem?_coreFlags weighed

/-! ### The scan -/

/-- A step of the scan reads nothing that does not exist, and leaves the same progress. -/
theorem scanRow?_eq (size : progress.marks.size = job.data.rowCount) (inside : i < job.data.rowCount)
    (few : progress.next + 1 < clusterBound) :
    scanRow? job.data (reach job) (graph job).coreFlags progress i = some ((graph job).scanRow progress i) := by
  have within : i < progress.marks.size := by rwa [size]
  have read : progress.marks[i]? = some progress.marks[i] := Array.getElem?_eq_getElem within
  have flag := getElem?_coreFlags weighed inside
  cases mark : progress.marks[i] with
  | some l => simp [scanRow?, Graph.scanRow, Marks.unreached, read, mark]
  | none =>
    cases dense : (graph job).core i with
    | false => simp [scanRow?, Graph.scanRow, read, mark, flag, dense]
    | true => simp [scanRow?, Graph.scanRow, Marks.unreached, read, mark, flag, dense, (shows_graph weighed).expand?_eq size inside, few]

omit weighed in
theorem next_scanRow_le (g : Graph) (progress : Progress) (i : Nat) : (g.scanRow progress i).next ≤ progress.next + 1 := by
  unfold Graph.scanRow
  split
  · exact Nat.le_refl _
  · exact Nat.le_succ _

/-- A scan of few rows finds everything it accesses, and starts no more clusters than rows it has seen. -/
theorem exists_scanned (few : job.data.rowCount < clusterBound) {t : Nat} (le : t ≤ job.data.rowCount) :
    ∃ seen : Progress, seen.marks.size = job.data.rowCount ∧ seen.next ≤ t ∧
      (List.range t).foldl (graph job).scanRow ⟨Array.replicate job.data.rowCount none, 0⟩ = seen ∧
      (List.range t).foldlM (scanRow? job.data (reach job) (graph job).coreFlags)
        ⟨Array.replicate job.data.rowCount none, 0⟩ = some seen := by
  induction t with
  | zero => exact ⟨_, Array.size_replicate, Nat.le_refl 0, rfl, rfl⟩
  | succ t ih =>
    obtain ⟨seen, size, next, folded, found⟩ := ih (by omega)
    have row := scanRow?_eq weighed size (show t < job.data.rowCount by omega) (by omega)
    have bound := next_scanRow_le (graph job) seen t
    refine ⟨(graph job).scanRow seen t, by rw [Graph.size_scanRow, size], by omega, ?_, ?_⟩
    · rw [List.range_succ, List.foldl_append, folded, List.foldl_cons, List.foldl_nil]
    · simp [List.range_succ, List.foldlM_append, found, row]

/-- The whole scan reads nothing that does not exist. -/
theorem scan?_eq (few : job.data.rowCount < clusterBound) :
    scan? job.data (reach job) (graph job).coreFlags = some (graph job).scan := by
  obtain ⟨seen, -, -, folded, found⟩ := exists_scanned weighed few (Nat.le_refl _)
  rw [scan?, found, ← folded, Graph.scan, size_graph weighed]

/-! ### The outputs -/

theorem indices_eq : (List.range (graph job).coreFlags.length).filterM (fun i => (graph job).coreFlags[i]?) =
    some (graph job).coreIndices := by
  have length : (graph job).coreFlags.length = job.data.rowCount := by
    rw [Graph.coreFlags, List.length_map, List.length_range, size_graph weighed]
  rw [length, Graph.coreIndices, size_graph weighed]
  exact filterM_eq_some_filter fun i member => getElem?_coreFlags weighed (List.mem_range.1 member)

theorem rowsAt?_eq : rowsAt? job.data (graph job).coreIndices = some (coreRows job.data (graph job)) := by
  have indices : (graph job).coreIndices = (List.range job.data.rowCount).filter fun i => decide (job.IsCore i) := by
    rw [Graph.coreIndices, size_graph weighed, core_graph weighed]
  have rows : (graph job).coreIndices.mapM job.data.row? = some ((graph job).coreIndices.map job.rowAt) := by
    refine mapM_eq_some_map fun i member => row?_eq_rowAt ?_
    rw [indices] at member
    exact List.mem_range.1 (List.mem_filter.1 member).1
  have picked := picked_eq weighed
  rw [← indices] at picked
  have length := congrArg List.length picked
  rw [List.length_map, List.length_map] at length
  simp only [rowsAt?, rows, coreRows, picked, length, Option.bind_eq_bind, Option.bind_some, Option.pure_def]

/-- The answer to a job without a fault comes without an access out of range. -/
theorem answerSound?_eq (few : job.data.rowCount < clusterBound) : answerSound? job = some (answerSound job) := by
  simp only [answerSound?, cores_eq weighed, scan?_eq weighed few, indices_eq weighed, rowsAt?_eq weighed,
    Option.bind_eq_bind, Option.bind_some, Option.pure_def, answerSound]
  split
  · rfl
  · rfl

end

/-- With every access checked, the answer to a job with few rows is the same. -/
theorem answer?_eq (few : job.data.rowCount < clusterBound) : answer? job = some (answer job) := by
  cases faulty : fault? job with
  | some cause => simp only [answer?, answer, faulty]
  | none =>
    simp only [answer?, answer, faulty]
    exact answerSound?_eq (fault?_eq_none_iff.1 faulty).weighed few

end Guarded

end DensityAudit.Density
