import DensityAudit.Audit.Checks

/-!
# Cases with a published quality

Large datasets, kept in files outside, with the published figure of their clustering and the precisions it
holds for. Reading the files is left to the caller.
-/

namespace DensityAudit

/-- An external dataset with a published figure. -/
structure QualityCase where
  name : String
  /-- Where the dataset is, below the directory of the settings. -/
  path : String
  epsilon : Float
  minObservations : Nat
  reference : Float
  tolerance : Float
  /-- The precisions that the figure holds for. -/
  precisions : List Precision

namespace QualityCase

/-- The figure holds for a precision. -/
def hasReference (c : QualityCase) (precision : Precision) : Bool := c.precisions.contains precision

/-- Where the dataset is, if external datasets are used. -/
def locate? (c : QualityCase) (s : Settings) : Option String := s.resolve? c.path

def trial (c : QualityCase) (data : Table Float) : Trial := ⟨⟨c.name, data, none⟩, c.epsilon, c.minObservations⟩

/-- Audits an engine on the case. Without a figure for the auditor's precision the engine is not called. -/
def run {σ : Type} (c : QualityCase) (a : Auditor σ) (data : Table Float) : Audit σ (Verdict QualityOutcome) :=
  if c.hasReference a.precision then a.checkQuality (c.trial data) c.reference (some c.tolerance)
  else (c.trial data).verdict (.ok (.noReference a.precision))

end QualityCase

/-- All cases with a published quality. The first figure holds for single precision only. -/
def qualityCases : List QualityCase := [
  { name := "mnist: samples=10K, epsilon=1.7e3, min_observations=3"
    path := "workloads/mnist/dataset/mnist_test.csv"
    epsilon := 1.7e3
    minObservations := 3
    reference := 1.584515
    tolerance := 1.0e-3
    precisions := [.single] },
  { name := "hepmass: samples=10K, epsilon=5, min_observations=3"
    path := "workloads/hepmass/dataset/hepmass_10t_test.csv"
    epsilon := 5.0
    minObservations := 3
    reference := 0.78373
    tolerance := 1.0e-3
    precisions := [.single, .double] },
  { name := "road_network: samples=20K, epsilon=1.0e3, min_observations=220"
    path := "workloads/road_network/dataset/road_network_20t_cluster.csv"
    epsilon := 1.0e3
    minObservations := 220
    reference := 0.00036
    tolerance := 1.0e-1
    precisions := [.single, .double] }]

end DensityAudit
