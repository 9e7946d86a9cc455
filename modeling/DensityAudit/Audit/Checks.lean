import DensityAudit.Audit.Basic
import DensityAudit.Compare.Partition
import DensityAudit.Disclosure
import DensityAudit.Quality.DaviesBouldin

/-!
# The audits

Four audits of one clustering: its labels against known ones, its partition against a known one, its
quality against a published figure, and the outputs that it lets be read. Each calls the engine once, except
that quality is not audited with a tolerance that can accept nothing.
-/

namespace DensityAudit

/-- How precisely a figure is computed. -/
inductive Precision where
  | single
  | double
deriving DecidableEq

def Precision.name : Precision → String
  | .single => "f32"
  | .double => "f64"

/-- What a quality audit found. -/
inductive QualityOutcome where
  /-- Fewer than two clusters: the index has no value, and nothing was compared. -/
  | skipped (clusterCount : Nat)
  /-- No figure is known for this precision, and the engine was not called. -/
  | noReference (precision : Precision)
  | compared (clusterCount : Nat) (check : ToleranceCheck)

/-- Nothing was compared. -/
def QualityOutcome.isSkipped : QualityOutcome → Bool
  | .skipped _ => true
  | .noReference _ => true
  | .compared .. => false

/-- The labels that an engine had to return. -/
def requestedLabels (answer : Answer) : Except Failure (Table Label) :=
  answer.labels.mapError (inaccessible .labels)

namespace Auditor

variable {σ : Type}

/-- The precision of every table and every figure. -/
def precision (_ : Auditor σ) : Precision := .double

/-- Demands the given labels. -/
def checkLabels (a : Auditor σ) (t : Trial) (reference : Table Label) : Audit σ (Verdict EqualLabels) := do
  let answer ← a.run t (.only .labels)
  t.verdict do
    compareLabelTables (← requestedLabels answer) reference

/-- Demands the given partition. -/
def checkPartition (a : Auditor σ) (t : Trial) (reference : List Label) : Audit σ (Verdict EqualPartitions) := do
  let answer ← a.run t (.only .labels)
  t.verdict do
    comparePartitions (← readLabels computedColumns (← requestedLabels answer)) reference

/-- The index of the answered labels, held to a figure. -/
def compareQuality (t : Trial) (answer : Answer) (reference tolerance : Float) : Except Failure ToleranceCheck := do
  let labels ← readLabels computedColumns (← requestedLabels answer)
  checkTolerance (← quality t.dataset.data labels) reference tolerance

/-- Demands the given quality, within a tolerance or that of the settings. An answer with fewer than two
clusters is passed over. -/
def checkQuality (a : Auditor σ) (t : Trial) (reference : Float) (tolerance? : Option Float) :
    Audit σ (Verdict QualityOutcome) := do
  let tolerance := tolerance?.getD a.settings.tolerance
  if isTolerance tolerance then
    let answer ← a.run t (.only .labels)
    if answer.clusterCount < 2 then t.verdict (.ok (.skipped answer.clusterCount))
    else t.verdict ((compareQuality t answer reference tolerance).map (.compared answer.clusterCount))
  else t.verdict (.error (.invalidTolerance tolerance))

/-- Demands that exactly the given outputs can be read. -/
def checkDisclosure (a : Auditor σ) (t : Trial) (outputs : OutputSet) : Audit σ (Verdict DisclosureReport) := do
  let answer ← a.run t outputs
  t.verdict (disclosure outputs answer)

end Auditor

end DensityAudit
