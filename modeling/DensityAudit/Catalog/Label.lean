import DensityAudit.Audit.Checks

/-!
# Cases with known labels

Small datasets with their expected labels: rows at, below and beyond the radius, weights that do or do not
make a row dense, and a chain at growing thresholds.
-/

namespace DensityAudit

/-- Inline data with expected labels. -/
structure LabelCase where
  name : String
  /-- Row after row. -/
  values : List Float
  columns : Nat
  /-- A weight for each row, or one for all if absent. -/
  weights? : Option (List Float)
  epsilon : Float
  minObservations : Nat
  expected : List Label

namespace LabelCase

def data (c : LabelCase) : Except Failure (Table Float) :=
  (Table.wrap c.values (c.values.length / max c.columns 1) c.columns).mapError Failure.table

def weightTable? (c : LabelCase) : Option (Table Float) := c.weights?.map Table.column

def expectedTable (c : LabelCase) : Table Label := Table.column c.expected

def trial (c : LabelCase) (data : Table Float) : Trial :=
  ⟨⟨c.name, data, c.weightTable?⟩, c.epsilon, c.minObservations⟩

/-- Audits an engine on the case. Data that do not form a table fail before the engine is called. -/
def run {σ : Type} (c : LabelCase) (a : Auditor σ) : Audit σ (Verdict EqualLabels) := do
  let data ← ExceptT.mk (pure c.data)
  a.checkLabels (c.trial data) c.expectedTable

end LabelCase

/-- Three rows of five values, far apart from one another. -/
def farApartValues : List Float :=
  [0.0, 5.0, 0.0, 0.0, 0.0,
   1.0, 1.0, 4.0, 0.0, 0.0,
   1.0, 0.0, 0.0, 5.0, 1.0]

/-- A case on rows of one value. -/
def LabelCase.onLine (name : String) (values : List Float) (weights? : Option (List Float)) (epsilon : Float)
    (minObservations : Nat) (expected : List Label) : LabelCase :=
  ⟨name, values, 1, weights?, epsilon, minObservations, expected⟩

/-- Seven values on a line, three of them one apart. -/
def chainValues : List Float := [0.0, 2.0, 3.0, 4.0, 6.0, 8.0, 10.0]

def pairValues : List Float := [0.0, 1.0]

/-- Two equal values and one at distance one. -/
def tripleValues : List Float := [0.0, 1.0, 1.0]

/-- All cases with known labels. -/
def labelCases : List LabelCase := [
  ⟨"degenerate", farApartValues, 5, some [1.0, 1.1, 1.0], 0.01, 1, [0, 1, 2]⟩,
  ⟨"noise pair", [0.0, 0.0, 3.0, 4.0], 2, none, 4.9, 2, [-1, -1]⟩,
  .onLine "boundary pair" pairValues none 2.0 2 [0, 0],
  .onLine "boundary at epsilon" tripleValues none 1.0 2 [0, 0, 0],
  .onLine "boundary below epsilon" tripleValues none 0.999 2 [-1, 0, 0],
  .onLine "weights absent" pairValues none 0.5 6 [-1, -1],
  .onLine "weights 5,5" pairValues (some [5.0, 5.0]) 0.5 6 [-1, -1],
  .onLine "weights 6,5" pairValues (some [6.0, 5.0]) 0.5 6 [0, -1],
  .onLine "weights 6,6" pairValues (some [6.0, 6.0]) 0.5 6 [0, 1],
  .onLine "core chain min 1" chainValues none 1.0 1 [0, 1, 1, 1, 2, 3, 4],
  .onLine "core chain min 2" chainValues none 1.0 2 [-1, 0, 0, 0, -1, -1, -1],
  .onLine "core chain min 3" chainValues none 1.0 3 [-1, 0, 0, 0, -1, -1, -1],
  .onLine "core chain min 4" chainValues none 1.0 4 [-1, -1, -1, -1, -1, -1, -1]]

/-- Audits an engine on every case, keeping each outcome with the name of its case. -/
def runLabelCases {σ : Type} (a : Auditor σ) : StateM σ (List (String × Except Failure (Verdict EqualLabels))) :=
  labelCases.mapM fun c => do
    let outcome ← (c.run a).run
    pure (c.name, outcome)

end DensityAudit
