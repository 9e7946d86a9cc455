import DensityAudit.Output

/-!
# Clustering requests

A `Request` holds the parameters of one density-based clustering: how near two rows must be to be
neighbours, how much weight a neighbourhood needs to be dense, and the outputs that are wanted.
-/

namespace DensityAudit

/-- The parameters of one clustering. -/
structure Request where
  /-- The largest distance between neighbours. -/
  epsilon : Float
  /-- The least weight of a core row's neighbourhood, the row itself included. -/
  minObservations : Nat
  /-- The outputs that the engine has to return, and no others. -/
  outputs : OutputSet

namespace Request

def forLabels (epsilon : Float) (minObservations : Nat) : Request :=
  ⟨epsilon, minObservations, .only .labels⟩

/-- The request to start from: radius one half, at least five observations, the labels. -/
def standard : Request := forLabels 0.5 5

/-- Equality of requests, with the equality of doubles on the radius. -/
def equal (r s : Request) : Bool :=
  r.epsilon == s.epsilon && r.minObservations == s.minObservations && decide (r.outputs = s.outputs)

end Request

end DensityAudit
