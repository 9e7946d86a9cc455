import DensityAudit.Engine.Error

/-!
# Answers of clustering engines

An `Answer` always tells the number of clusters. Each of the four outputs is there or not, and reading
one that is not there fails with the error that names it.
-/

namespace DensityAudit

/-- A cluster label. Clusters are numbered from zero; a negative label marks noise. -/
abbrev Label := Int

/-- The label that an engine gives to a row outside all clusters. -/
def noise : Label := -1

/-- What an engine answers to a request. -/
structure Answer where
  /-- The outputs that the request named. -/
  outputs : OutputSet
  clusterCount : Nat
  labels? : Option (Table Label)
  coreFlags? : Option (Table Bool)
  coreRows? : Option (Table Float)
  coreIndices? : Option (Table Nat)

namespace Answer

/-- The stored table, or the error that the output was not requested. -/
def stored {α : Type} (output : Output) : Option (Table α) → Except EngineError (Table α)
  | some table => .ok table
  | none => .error (.notRequested output)

def labels (a : Answer) : Except EngineError (Table Label) := stored .labels a.labels?

def coreFlags (a : Answer) : Except EngineError (Table Bool) := stored .coreFlags a.coreFlags?

/-- The core rows in input order. -/
def coreRows (a : Answer) : Except EngineError (Table Float) := stored .coreRows a.coreRows?

/-- The indices of the core rows in ascending order. -/
def coreIndices (a : Answer) : Except EngineError (Table Nat) := stored .coreIndices a.coreIndices?

/-- Whether an output can be read, whatever it holds. -/
def query (a : Answer) : Output → Except EngineError Unit
  | .labels => a.labels.map fun _ => ()
  | .coreFlags => a.coreFlags.map fun _ => ()
  | .coreRows => a.coreRows.map fun _ => ()
  | .coreIndices => a.coreIndices.map fun _ => ()

end Answer

end DensityAudit
