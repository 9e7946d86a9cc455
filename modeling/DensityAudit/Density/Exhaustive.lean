import DensityAudit.Density.Labelling
import DensityAudit.Engine.Basic

/-!
# The exhaustive engine

An engine for density-based clustering that compares every row with every other. It first checks the
job, in a fixed order of causes, and never fails after that. The outputs are taken from one labelling,
so that asking for more or fewer of them does not change any.
-/

namespace DensityAudit.Density

def allFinite (t : Table Float) : Bool := t.values.all Float.isFinite

/-- The fault of the weights for a number of rows, if they have one. -/
def weightFault? (rows : Nat) (weights : Table Float) : Option EngineError :=
  if weights.rowCount ≠ rows ∨ weights.columnCount ≠ 1 then
    some (.weightShape rows weights.rowCount weights.columnCount)
  else if !allFinite weights then some (.invalidParameter "weights" "must be finite")
  else none

/-- The radius can be a distance. -/
def isRadius (epsilon : Float) : Bool := epsilon.isFinite && !decide (epsilon < 0.0)

/-- The first fault of a job, if it has one. -/
def fault? (job : Job) : Option EngineError :=
  if job.data.rowCount = 0 then some .emptyInput
  else if job.data.columnCount = 0 then some (.invalidParameter "data" "must have at least one column")
  else if !allFinite job.data then some (.invalidParameter "data" "must be finite")
  else if !isRadius job.request.epsilon then
    some (.invalidParameter "epsilon" "must be finite and non-negative")
  else if job.request.minObservations = 0 then some (.invalidParameter "min_observations" "must be at least 1")
  else job.weights?.bind (weightFault? job.data.rowCount)

/-- The weights of the rows: those given, or one for every row. -/
def rowWeights (job : Job) : List Float :=
  match job.weights? with
  | some weights => weights.values
  | none => List.replicate job.data.rowCount 1.0

/-- The rows of a job with their weights. -/
def observations (job : Job) : List Observation :=
  List.zipWith Observation.mk job.data.rows (rowWeights job)

def graph (job : Job) : Graph :=
  let epsilon := job.request.epsilon
  Graph.ofObservations (epsilon * epsilon) (Binary64.ofCount job.request.minObservations) (observations job)

def Graph.coreFlags (g : Graph) : List Bool := (List.range g.size).map g.core

/-- The indices of the core rows, ascending. -/
def Graph.coreIndices (g : Graph) : List Nat := (List.range g.size).filter g.core

/-- The core rows in input order. -/
def coreRows (data : Table Float) (g : Graph) : Except EngineError (Table Float) :=
  let picked := (data.rows.zip g.coreFlags).filter Prod.snd
  (Table.wrap (picked.map Prod.fst).flatten picked.length data.columnCount).mapError EngineError.table

/-- The answer to a job without a fault. -/
def answerSound (job : Job) : Except EngineError Answer :=
  let g := graph job
  let asked := job.request.outputs
  let make := fun rows? =>
    { outputs := asked
      clusterCount := g.clusterCount
      labels? := if asked.contains .labels then some (Table.column g.labels) else none
      coreFlags? := if asked.contains .coreFlags then some (Table.column g.coreFlags) else none
      coreRows? := rows?
      coreIndices? := if asked.contains .coreIndices then some (Table.column g.coreIndices) else none }
  if asked.contains .coreRows then (coreRows job.data g).map fun rows => make (some rows)
  else .ok (make none)

/-- The answer of the exhaustive engine: the first fault of the job, or the outputs of its labelling. -/
def answer (job : Job) : Except EngineError Answer :=
  match fault? job with
  | some cause => .error cause
  | none => answerSound job

/-- The engine that compares every row with every other. -/
def exhaustive {σ : Type} : Engine σ := Engine.ofFunction answer

end DensityAudit.Density
