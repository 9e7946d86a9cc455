import DensityAudit.Failure

/-!
# Comparison of labels row by row

Two labellings of the same rows are compared label by label. A mismatch lists every row where they differ.
-/

namespace DensityAudit

/-- The number of rows that were compared and found equal. -/
structure EqualLabels where
  rows : Nat
deriving DecidableEq

/-- The labels of a table that must have one column. -/
def readLabels (what : String) (t : Table Label) : Except Failure (List Label) :=
  if t.columnCount ≠ 1 then .error (.shape what 1 t.columnCount)
  else (t.pullRows 0 t.rowCount).mapError Failure.table

/-- What a table with more than one column of computed labels is called. -/
def computedColumns : String := "computed label columns"

/-- The failure of comparing labellings of different lengths. -/
def unequalRows (computed reference : List Label) : Failure := .shape "label rows" reference.length computed.length

/-- The rows where two labellings differ, in order, counting from `index`. -/
def differencesFrom (index : Nat) : List Label → List Label → List RowDifference
  | c :: computed, r :: reference =>
    if c = r then differencesFrom (index + 1) computed reference
    else ⟨index, c, r⟩ :: differencesFrom (index + 1) computed reference
  | _, _ => []

/-- Demands the same label on every row. -/
def compareLabels (computed reference : List Label) : Except Failure EqualLabels :=
  if computed.length ≠ reference.length then .error (unequalRows computed reference)
  else match differencesFrom 0 computed reference with
    | [] => .ok ⟨computed.length⟩
    | differences => .error (.mismatch (.rows computed.length differences))

/-- Demands the same label on every row of two tables of one column. -/
def compareLabelTables (computed reference : Table Label) : Except Failure EqualLabels := do
  let computed ← readLabels computedColumns computed
  let reference ← readLabels "reference label columns" reference
  compareLabels computed reference

end DensityAudit
