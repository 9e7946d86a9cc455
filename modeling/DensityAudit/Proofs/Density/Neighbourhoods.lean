import DensityAudit.Proofs.Density.Guarded
import DensityAudit.Proofs.Density.Threshold

/-!
# The neighbours of a row and its density

Neighbours are looked for twice: the engine weighs those of every row to find the core rows, and a cluster grows through
them. Both compare squares of distances, which may be rounded and infinite but never undefined for finite coordinates, and
are the same in both directions. So both find the same rows, in ascending order (`Neighbourhood`), and being neighbours is
reflexive and symmetric: `neighbourhoods_agree`.
-/

namespace DensityAudit.Density

variable {job : Job} {i j : Nat}

/-- The neighbours and the core flag of a row belong together, and are those that the checked functions find. -/
structure Neighbourhood (job : Job) (i : Nat) (found : List Nat) (flag : Bool) : Prop where
  asked : Guarded.near? job.data (Guarded.reach job) i = some found
  ascending : found.Pairwise (· < ·)
  mem : ∀ j, j ∈ found ↔ job.Near i j
  self : i ∈ found
  tested : Guarded.core? job.data (Guarded.reach job) job.weights? (Binary64.ofCount job.request.minObservations) i = some flag
  /-- The weights of the neighbours are summed in their order. -/
  dense : flag = true ↔ Binary64.ofCount job.request.minObservations ≤ (found.map job.weightAt).foldl (· + ·) 0.0
  counted : job.weights? = none → job.data.rowCount < 2 ^ 53 → (flag = true ↔ job.request.minObservations ≤ found.length)

/-- Without weights the density of a row is the number of rows near it. -/
theorem foldl_weightAt_of_unweighted (unweighted : job.weights? = none) {found : List Nat} (short : found.length ≤ 2 ^ 53) :
    (found.map job.weightAt).foldl (· + ·) 0.0 = Binary64.ofCount found.length := by
  have ones : found.map job.weightAt = (List.replicate found.length 1).map Binary64.ofCount := by
    have weight : job.weightAt = fun _ => 1.0 := funext fun i => by rw [Job.weightAt, unweighted]
    rw [weight, List.map_const', List.map_replicate, Binary64.ofCount_one]
  have total : (List.replicate found.length 1).sum = found.length := by rw [List.sum_replicate, smul_eq_mul, Nat.mul_one]
  have summed := Binary64.foldl_add_ofCount (show 0 + (List.replicate found.length 1).sum ≤ 2 ^ 53 by omega)
  rwa [← ones, Binary64.ofCount_zero, total, Nat.zero_add] at summed

theorem length_near_le (weighed : job.Weighed) (inside : i < job.data.rowCount) :
    ((graph job).near i).length ≤ job.data.rowCount := by
  rw [Guarded.near_graph_eq weighed inside]
  exact (List.length_filter_le ..).trans_eq List.length_range

/-- The neighbours and the core flag of a row in the graph belong together. -/
theorem neighbourhood (weighed : job.Weighed) (finite : allFinite job.data = true)
    (defined : job.request.epsilon.isNaN = false) (inside : i < job.data.rowCount) :
    Neighbourhood job i ((graph job).near i) ((graph job).core i) where
  asked := Guarded.near?_eq weighed inside
  ascending := by
    rw [Guarded.near_graph_eq weighed inside]
    exact List.pairwise_lt_range.filter _
  mem j := adjacent_graph_iff weighed
  self := (adjacent_graph_iff weighed).2 (near_refl finite defined inside)
  tested := Guarded.core?_eq weighed inside
  dense := by
    have core := isCore_graph_iff (i := i) weighed
    rw [Job.IsCore, and_iff_right inside, Job.densityAt, ← Guarded.near_graph_eq weighed inside] at core
    exact core
  counted unweighted few := by
    have core := isCore_graph_iff (i := i) weighed
    have short := (length_near_le weighed inside).trans_lt few
    rw [Job.IsCore, and_iff_right inside, Job.densityAt, ← Guarded.near_graph_eq weighed inside,
      foldl_weightAt_of_unweighted unweighted short.le, Binary64.ofCount_le_ofCount_iff short] at core
    exact core

/-- For finite coordinates and a radius that is not negative, infinite squares included: the neighbours of a row are
ascending, the row itself is among them, and two rows are neighbours both ways or not at all. The core flag of a row goes by
the same neighbours, whose weights it sums in their order, and without weights it says whether there are enough of them. -/
theorem neighbourhoods_agree (job : Job) (finite : allFinite job.data = true) (radius : 0.0 ≤ job.request.epsilon)
    (weighed : job.Weighed) :
    (∀ i < job.data.rowCount, Neighbourhood job i ((graph job).near i) ((graph job).core i)) ∧
    ∀ i < job.data.rowCount, ∀ j < job.data.rowCount, (j ∈ (graph job).near i ↔ i ∈ (graph job).near j) := by
  have defined : job.request.epsilon.isNaN = false := (Binary64.zero_le_iff.1 radius).1
  have found : ∀ i < job.data.rowCount, Neighbourhood job i ((graph job).near i) ((graph job).core i) :=
    fun i inside => neighbourhood weighed finite defined inside
  refine ⟨found, fun i inside j inside' => ?_⟩
  rw [(found i inside).mem, (found j inside').mem]
  exact ⟨Job.Near.symm, Job.Near.symm⟩

/-- Three rows so far apart that the squares of their distances are infinite, as is that of the radius. -/
def farJob : Job := ⟨⟨1e160, 3, .only .coreFlags⟩, Table.column [1e200, -1e200, 0.0], none⟩

theorem neighbourhoods_agree_farJob :
    (allFinite farJob.data = true ∧ 0.0 ≤ farJob.request.epsilon ∧ farJob.Weighed) ∧
    Neighbourhood farJob 0 ((graph farJob).near 0) ((graph farJob).core 0) ∧ (graph farJob).core 0 = true ∧
    (1 ∈ (graph farJob).near 0 ↔ 0 ∈ (graph farJob).near 1) := by
  have finite : allFinite farJob.data = true := by decide +kernel
  have radius : 0.0 ≤ farJob.request.epsilon := by decide +kernel
  have weighed : farJob.Weighed := fun w given => by cases given
  obtain ⟨found, both⟩ := neighbourhoods_agree farJob finite radius weighed
  have first := found 0 (by decide)
  have all : (graph farJob).near 0 = [0, 1, 2] := by decide +kernel
  have enough : (graph farJob).core 0 = true := (first.counted rfl (by decide)).2 (by rw [all]; decide)
  exact ⟨⟨finite, radius, weighed⟩, first, enough, both 0 (by decide) 1 (by decide)⟩

end DensityAudit.Density
