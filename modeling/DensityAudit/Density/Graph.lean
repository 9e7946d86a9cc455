import DensityAudit.Density.Neighbourhood

/-!
# The neighbourhood graph

Clustering itself needs no coordinates: only the number of rows, the neighbours of each row and which
rows are core. `Graph.ofObservations` builds these from the observations, once per row.
-/

namespace DensityAudit.Density

/-- Rows numbered from zero, each with its neighbours in the order they are visited. -/
structure Graph where
  size : Nat
  near : Nat → List Nat
  core : Nat → Bool

/-- The graph of the neighbourhoods with the given reach, with the core rows for a threshold. -/
def Graph.ofObservations (reach threshold : Float) (observations : List Observation) : Graph :=
  let stored := observations.toArray
  let cores := (observations.map (isCore reach threshold observations)).toArray
  { size := observations.length
    near := fun i => (stored[i]?.map (neighbours reach observations)).getD []
    core := fun i => cores.getD i false }

namespace Graph

theorem near_ofObservations {reach threshold : Float} {observations : List Observation} {i : Nat}
    (h : i < observations.length) :
    (ofObservations reach threshold observations).near i = neighbours reach observations observations[i] := by
  simp [ofObservations, h]

theorem core_ofObservations {reach threshold : Float} {observations : List Observation} {i : Nat}
    (h : i < observations.length) :
    (ofObservations reach threshold observations).core i = isCore reach threshold observations observations[i] := by
  simp [ofObservations, h]

/-- Rows that do not exist have no neighbours. -/
theorem near_ofObservations_of_le {reach threshold : Float} {observations : List Observation} {i : Nat}
    (h : observations.length ≤ i) : (ofObservations reach threshold observations).near i = [] := by
  simp [ofObservations, h]

/-- Rows that do not exist are not core. -/
theorem core_ofObservations_of_le {reach threshold : Float} {observations : List Observation} {i : Nat}
    (h : observations.length ≤ i) : (ofObservations reach threshold observations).core i = false := by
  simp [ofObservations, h]

end Graph

end DensityAudit.Density
