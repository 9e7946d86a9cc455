import DensityAudit.Proofs.Density.Characterization
import DensityAudit.Proofs.Density.Placement

/-!
# Rows picked from a job

`Job.pick` keeps the rows at a list of places, with their weights, in the order of the list; some rows may be left
out, and the others may change their order. Row `k` of the picked job is row `placeAt places k` of the whole
(`placed_pick`), and the weight near it is summed over the places that were picked (`densityAt_pick`).
-/

namespace DensityAudit

/-- The job with the rows at the given places, and their weights, in the order of the places. -/
def Job.pick (job : Job) (places : List Nat) : Job where
  request := job.request
  data := job.data.pick places
  weights? := job.weights?.map fun w => Table.column (DensityAudit.pick places w.values)

namespace Density

/-- The place of row `k` among the picked ones. -/
def placeAt (places : List Nat) (k : Nat) : Nat := places.getD k 0

variable {job : Job} {places : List Nat} {i k : Nat}

theorem places_eq_map_placeAt (places : List Nat) : places = (List.range places.length).map (placeAt places) :=
  (map_getD_range places 0).symm

theorem placeAt_mem (inside : k < places.length) : placeAt places k ∈ places := by
  rw [placeAt, List.getD_eq_getElem _ _ inside]
  exact List.getElem_mem inside

theorem exists_placeAt (member : i ∈ places) : ∃ k < places.length, placeAt places k = i := by
  obtain ⟨k, inside, found⟩ := List.mem_iff_getElem.1 member
  exact ⟨k, inside, by rw [placeAt, List.getD_eq_getElem _ _ inside, found]⟩

/-- What is picked at row `k` stood at the place of the row. -/
theorem getElem?_pick {α : Type} {values : List α} (inside : ∀ i ∈ places, i < values.length) (hk : k < places.length) :
    (pick places values)[k]? = values[placeAt places k]? := by
  have fits := inside _ (placeAt_mem hk)
  have d : α := values[placeAt places k]
  rw [pick_eq_map_getD inside d, List.getElem?_map, List.getElem?_eq_getElem hk, Option.map_some,
    List.getElem?_eq_getElem fits, ← List.getD_eq_getElem _ d fits, placeAt, List.getD_eq_getElem _ 0 hk]

section

variable (inside : ∀ i ∈ places, i < job.data.rowCount)
include inside

theorem rowCount_pick : (job.pick places).data.rowCount = places.length := Table.rowCount_pick inside

theorem rowAt_pick (hk : k < places.length) : (job.pick places).rowAt k = job.rowAt (placeAt places k) := by
  have rows : ∀ i ∈ places, i < job.data.rows.length := by rwa [Table.length_rows]
  rw [Job.rowAt, Job.rowAt, Job.pick, Table.rows_pick, List.getD_eq_getElem?_getD, getElem?_pick rows hk,
    ← List.getD_eq_getElem?_getD]

theorem weightAt_pick (accepted : Accepted job) (hk : k < places.length) :
    (job.pick places).weightAt k = job.weightAt (placeAt places k) := by
  rw [Job.weightAt, Job.weightAt, Job.pick]
  cases given : job.weights? with
  | none => rfl
  | some w =>
    have fits : ∀ i ∈ places, i < w.values.length := by rwa [length_weights accepted given]
    show (pick places w.values).getD k 0.0 = w.values.getD (placeAt places k) 0.0
    rw [List.getD_eq_getElem?_getD, getElem?_pick fits hk, ← List.getD_eq_getElem?_getD]

/-- Picked rows are found at their places. -/
theorem placed_pick : Placed (placeAt places) (job.pick places) job where
  epsilon := rfl
  minObservations := rfl
  inside k hk := by
    rw [rowCount_pick inside] at hk
    exact inside _ (placeAt_mem hk)
  rowAt k hk := by
    rw [rowCount_pick inside] at hk
    exact (rowAt_pick inside hk).symm

/-- Some rows of an accepted job are accepted. -/
theorem accepted_pick (accepted : Accepted job) (some : places ≠ []) : Accepted (job.pick places) where
  rows := by
    rw [rowCount_pick inside]
    exact List.length_pos_iff.2 some
  columns := accepted.columns
  finite := by
    have finite := accepted.finite
    rw [allFinite, List.all_eq_true] at finite ⊢
    exact fun x member => finite x (Table.mem_values_of_mem_pick member)
  radius := accepted.radius
  threshold := accepted.threshold
  weights w given := by
    obtain ⟨v, given', rfl⟩ := Option.map_eq_some_iff.1 given
    have fits : ∀ i ∈ places, i < v.values.length := by rwa [length_weights accepted given']
    refine ⟨?_, rfl, ?_⟩
    · rw [rowCount_pick inside]
      exact length_pick fits
    · have finite := (accepted.weights v given').2.2
      rw [allFinite, List.all_eq_true] at finite ⊢
      exact fun x member => finite x (mem_of_mem_pick member)

/-- The weight near a picked row is that of the picked places near the place of the row, in their order. -/
theorem densityAt_pick (accepted : Accepted job) (hk : k < places.length) :
    (job.pick places).densityAt k =
      ((places.filter fun j => decide (job.Near (placeAt places k) j)).map job.weightAt).foldl (· + ·) 0.0 := by
  have placed := placed_pick inside
  have rows := rowCount_pick inside
  have near : ∀ l ∈ List.range places.length, decide ((job.pick places).Near k l) =
      decide (job.Near (placeAt places k) (placeAt places l)) := by
    intro l member
    have hl := List.mem_range.1 member
    exact decide_eq_decide.2 (placed.near_iff (by rwa [rows]) (by rwa [rows]))
  conv_rhs => rw [places_eq_map_placeAt places, List.filter_map, List.map_map, ← places_eq_map_placeAt places]
  rw [Job.densityAt, rows, List.filter_congr near]
  congr 1
  apply List.map_congr_left
  intro l member
  exact weightAt_pick inside accepted (List.mem_range.1 (List.mem_filter.1 member).1)

/-- If the picked rows are core as they were, they keep their flags. -/
theorem coreFlags_pick {c d : Clustering} (described : Describes job c) (described' : Describes (job.pick places) d)
    (dense : ∀ k < places.length, (job.pick places).IsCore k ↔ job.IsCore (placeAt places k)) :
    d.coreFlags = pick places c.coreFlags := by
  have fits : ∀ i ∈ places, i < ((List.range job.data.rowCount).map fun i => decide (job.IsCore i)).length := by
    rwa [List.length_map, List.length_range]
  rw [described'.coreFlags, described.coreFlags, rowCount_pick inside, pick_eq_map_getD fits false]
  conv_rhs => rw [places_eq_map_placeAt places, List.map_map]
  apply List.map_congr_left
  intro k member
  have hk := List.mem_range.1 member
  have flagged := fits _ (placeAt_mem hk)
  rw [Function.comp_apply, List.getD_eq_getElem _ _ flagged, List.getElem_map, List.getElem_range]
  exact decide_eq_decide.2 (dense k hk)

end

end Density

end DensityAudit
