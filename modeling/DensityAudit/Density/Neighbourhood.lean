import DensityAudit.Binary64

/-!
# Neighbourhoods of observations

An observation is a point with a weight. Two observations are neighbours if the square of their
distance is at most the square of the radius, called `reach` here; squares are compared so that no
root is rounded. An observation is a core observation if the weights of its neighbours, itself
included and summed in input order, reach the threshold.
-/

namespace DensityAudit

/-- The square of the Euclidean distance, summed coordinate by coordinate from zero. -/
def squaredDistance (p q : List Float) : Float :=
  (List.zipWith (fun x y => (x - y) * (x - y)) p q).foldl (· + ·) 0.0

def distance (p q : List Float) : Float := (squaredDistance p q).sqrt

namespace Density

/-- A point with its weight. -/
structure Observation where
  position : List Float
  weight : Float

/-- Two observations are neighbours. -/
def near (reach : Float) (a b : Observation) : Bool :=
  decide (squaredDistance a.position b.position ≤ reach)

/-- The weight of the neighbourhood of `a`, summed in input order. -/
def neighbourhoodWeight (reach : Float) (observations : List Observation) (a : Observation) : Float :=
  ((observations.filter (near reach a)).map Observation.weight).foldl (· + ·) 0.0

/-- The neighbourhood of `a` is dense. -/
def isCore (reach threshold : Float) (observations : List Observation) (a : Observation) : Bool :=
  decide (threshold ≤ neighbourhoodWeight reach observations a)

/-- The indices of the neighbours of `a`, ascending. -/
def neighbours (reach : Float) (observations : List Observation) (a : Observation) : List Nat :=
  (observations.zipIdx.filter fun b => near reach a b.1).map Prod.snd

/-- A row is among the neighbours iff it exists and is near. -/
theorem mem_neighbours_iff {reach : Float} {observations : List Observation} {a : Observation} {j : Nat} :
    j ∈ neighbours reach observations a ↔ ∃ b, observations[j]? = some b ∧ near reach a b = true := by
  simp only [neighbours, List.mem_map, List.mem_filter, Prod.exists, List.mem_zipIdx_iff_getElem?]
  constructor
  · rintro ⟨b, i, ⟨found, close⟩, rfl⟩
    exact ⟨b, found, close⟩
  · rintro ⟨b, found, close⟩
    exact ⟨b, j, ⟨found, close⟩, rfl⟩

end Density

end DensityAudit
