import DensityAudit.Density.Exhaustive

/-!
# The exhaustive engine with every access checked

The same engine, except that it has no result if it reads a row, a weight, a label or a core flag that does not exist, or
if a cluster gets a number that does not fit into a label of 32 bits. While a cluster grows, the row that was pushed last
is visited first.
-/

namespace DensityAudit.Density.Guarded

/-- Cluster numbers are below this bound, two to the power of 31. -/
def clusterBound : Nat := 2147483648

/-- The weight of a row: the given one, or one for every row. -/
def weight? (weights? : Option (Table Float)) (i : Nat) : Option Float :=
  match weights? with
  | some weights => weights.values[i]?
  | none => some 1.0

section

variable (data : Table Float) (reach : Float)

/-- The rows near a row, ascending. -/
def near? (i : Nat) : Option (List Nat) :=
  (data.row? i).map fun point =>
    (data.rows.zipIdx.filter fun other => decide (squaredDistance point other.1 ≤ reach)).map Prod.snd

/-- The rows near a row have at least the weight of the threshold. -/
def core? (weights? : Option (Table Float)) (threshold : Float) (i : Nat) : Option Bool := do
  let found ← near? data reach i
  let weights ← found.mapM (weight? weights?)
  return decide (threshold ≤ weights.foldl (· + ·) 0.0)

variable (cores : List Bool)

def onward? (marks : Marks) (i : Nat) : Option (List Nat) := do
  if ← cores[i]? then
    let found ← near? data reach i
    found.filterM fun j => (marks[j]?).map Option.isNone
  else return []

def visit? (label : Label) (stack : List Nat) (marks : Marks) : Option Marks :=
  match stack with
  | [] => some marks
  | i :: rest =>
    match _ : marks[i]? with
    | none => none
    | some (some _) => visit? label rest marks
    | some none =>
      let labelled := marks.setIfInBounds i (some label)
      (onward? data reach cores labelled i).bind fun next => visit? label (next.reverse ++ rest) labelled
termination_by (marks.unreachedCount, stack.length)
decreasing_by
  · exact Prod.Lex.right _ (Nat.lt_succ_self _)
  · exact Prod.Lex.left _ _ (Marks.unreachedCount_set_lt (Marks.unreached_iff.2 (by assumption)) label)

def expand? (label : Label) (seed : Nat) (marks : Marks) : Option Marks :=
  if seed < marks.size then
    (near? data reach seed).bind fun found =>
      visit? data reach cores label found.reverse (marks.setIfInBounds seed (some label))
  else none

def scanRow? (progress : Progress) (i : Nat) : Option Progress := do
  let mark ← progress.marks[i]?
  if mark.isSome then return progress
  if ← cores[i]? then
    let marks ← expand? data reach cores progress.next i progress.marks
    if progress.next + 1 < clusterBound then return ⟨marks, progress.next + 1⟩ else none
  else return progress

def scan? : Option Progress :=
  (List.range data.rowCount).foldlM (scanRow? data reach cores) ⟨Array.replicate data.rowCount none, 0⟩

end

/-- The rows of a table at the given indices. -/
def rowsAt? (data : Table Float) (indices : List Nat) : Option (Except EngineError (Table Float)) := do
  let rows ← indices.mapM data.row?
  return (Table.wrap rows.flatten indices.length data.columnCount).mapError EngineError.table

def answerSound? (job : Job) : Option (Except EngineError Answer) := do
  let reach := job.request.epsilon * job.request.epsilon
  let threshold := Binary64.ofCount job.request.minObservations
  let cores ← (List.range job.data.rowCount).mapM (core? job.data reach job.weights? threshold)
  let scanned ← scan? job.data reach cores
  let indices ← (List.range cores.length).filterM fun i => cores[i]?
  let asked := job.request.outputs
  let make := fun rows? =>
    { outputs := asked
      clusterCount := scanned.next
      labels? := if asked.contains .labels then some (Table.column (scanned.marks.toList.map labelOf)) else none
      coreFlags? := if asked.contains .coreFlags then some (Table.column cores) else none
      coreRows? := rows?
      coreIndices? := if asked.contains .coreIndices then some (Table.column indices) else none }
  if asked.contains .coreRows then
    let rows ← rowsAt? job.data indices
    return rows.map fun rows => make (some rows)
  else return .ok (make none)

/-- The first fault of the job, or the outputs of its labelling, if nothing that does not exist is accessed. -/
def answer? (job : Job) : Option (Except EngineError Answer) :=
  match fault? job with
  | some cause => some (.error cause)
  | none => answerSound? job

end DensityAudit.Density.Guarded
