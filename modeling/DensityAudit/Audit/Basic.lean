import DensityAudit.Engine.Basic
import DensityAudit.Failure
import DensityAudit.Settings.Basic

/-!
# Running an engine under audit

An `Auditor` holds an engine and settings. `Auditor.run` calls the engine once on a trial and places its
error, if it fails, in the trial's context. The audits of the other modules are built on it; each of them
either finds the engine in order, which is a `Verdict`, or fails within the same context.
-/

namespace DensityAudit

/-- The name under which audits are logged. -/
def logTarget : String := "clump_oracle"

/-- Named data with a weight for each row, or one for all if absent. -/
structure Dataset where
  name : String
  data : Table Float
  weights? : Option (Table Float)

/-- A dataset with the parameters of one clustering. -/
structure Trial where
  dataset : Dataset
  epsilon : Float
  minObservations : Nat

def Trial.context (t : Trial) : Context := ⟨t.dataset.name, t.epsilon, t.minObservations⟩

/-- The job that asks for the given outputs of a trial. -/
def Trial.job (t : Trial) (outputs : OutputSet) : Job :=
  ⟨⟨t.epsilon, t.minObservations, outputs⟩, t.dataset.data, t.dataset.weights?⟩

/-- What an audit found, and on which inputs. -/
structure Verdict (α : Type) where
  context : Context
  outcome : α

/-- An audit of an engine with a state of type `σ`. -/
abbrev Audit (σ α : Type) := ExceptT Failure (StateM σ) α

/-- An engine and the settings of its audits. -/
structure Auditor (σ : Type) where
  engine : Engine σ
  settings : Settings

namespace Trial

/-- A result in the trial's context. -/
def placed {σ α : Type} (t : Trial) (result : Except Failure α) : Audit σ α :=
  ExceptT.mk (pure (result.mapError (Failure.within t.context)))

/-- A verdict on the trial, from a result in its context. -/
def verdict {σ α : Type} (t : Trial) (result : Except Failure α) : Audit σ (Verdict α) :=
  t.placed (result.map (Verdict.mk t.context))

end Trial

/-- Calls the engine once for the given outputs of a trial. -/
def Auditor.run {σ : Type} (a : Auditor σ) (t : Trial) (outputs : OutputSet) : Audit σ Answer := do
  let answer ← (a.engine (t.job outputs) : StateM σ _)
  t.placed (answer.mapError Failure.engine)

end DensityAudit
