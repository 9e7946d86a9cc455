import DensityAudit.Decimal.Text
import DensityAudit.Engine.Answer

/-!
# Failures of an audit

A `Failure` says why an audit did not pass: the engine broke its contract, two labellings or two numbers
disagree, a measure has no value, the inputs do not fit together, or the engine itself failed. A failure
can be placed in a context, which names the inputs that reproduce it; the cause stays readable below it.
-/

namespace DensityAudit

/-- A row to which two labellings give different labels. -/
structure RowDifference where
  index : Nat
  computed : Label
  reference : Label
deriving DecidableEq

/-- Why a row cannot extend a renaming of clusters. -/
inductive Conflict where
  /-- Exactly one of the two labels marks noise. -/
  | noise
  /-- The computed cluster was paired with another reference cluster before. -/
  | split (previous : Label)
  /-- The reference cluster was paired with another computed cluster before. -/
  | merge (previous : Label)
deriving DecidableEq

/-- A comparison of two numbers: their relative difference and the tolerance it was held to. -/
structure ToleranceCheck where
  value : Float
  reference : Float
  ratio : Float
  tolerance : Float

/-- A comparison that came out unequal. -/
inductive Mismatch where
  /-- Some of `total` rows have different labels. -/
  | rows (total : Nat) (differences : List RowDifference)
  /-- No renaming of clusters explains this row and those before it. -/
  | structural (row : RowDifference) (conflict : Conflict)
  /-- A number is too far from its reference. -/
  | tolerance (check : ToleranceCheck)

/-- Why the quality index of a partition has no value. -/
inductive UndefinedQuality where
  | tooFewClusters (clusterCount : Nat)
  | coincidentCentroids (first second : Label)
  | missingCentroid (cluster : Label)
deriving DecidableEq

/-- The inputs that identify one audited run. -/
structure Context where
  dataset : String
  epsilon : Float
  minObservations : Nat

/-- Why an audit did not pass. -/
inductive Failure where
  /-- An output could be read although it was not requested, or could not although it was. -/
  | contract (output : Output) (requested : Bool) (detail : String)
  | mismatch (unequal : Mismatch)
  | undefinedQuality (reason : UndefinedQuality)
  /-- A relative tolerance that can accept nothing, or no number at all. -/
  | invalidTolerance (value : Float)
  /-- Two inputs whose extents should agree do not. -/
  | shape (what : String) (expected found : Nat)
  | table (cause : TableError)
  /-- The engine failed; its error is kept as it is. -/
  | engine (cause : EngineError)
  /-- A failure of the run identified by the context. -/
  | inContext (context : Context) (cause : Failure)

/-! ### Texts -/

def RowDifference.message (d : RowDifference) : String :=
  s!"; row {d.index}: computed {d.computed}, reference {d.reference}"

def Conflict.message (row : RowDifference) : Conflict → String
  | .noise => "noise disagreement"
  | .split previous => s!"computed cluster {row.computed} already maps to reference cluster {previous}"
  | .merge previous => s!"reference cluster {row.reference} already maps to computed cluster {previous}"

def Mismatch.message : Mismatch → String
  | .rows total differences =>
    s!"{differences.length} of {total} rows differ" ++ String.join (differences.map RowDifference.message)
  | .structural row conflict =>
    s!"partitions differ at row {row.index} (computed {row.computed}, reference {row.reference}): "
      ++ conflict.message row
  | .tolerance check =>
    "value " ++ Decimal.inMessage check.value ++ " vs reference " ++ Decimal.inMessage check.reference
      ++ ": relative difference " ++ Decimal.inMessage check.ratio
      ++ " is not below " ++ Decimal.inMessage check.tolerance

def UndefinedQuality.message : UndefinedQuality → String
  | .tooFewClusters clusterCount => s!"need at least two clusters, found {clusterCount}"
  | .coincidentCentroids first second => s!"clusters {first} and {second} have coincident centroids"
  | .missingCentroid cluster => s!"no centroid for cluster {cluster}"

/-- The text of a complaint about a tolerance. -/
def invalidToleranceMessage (value : Float) : String :=
  "relative tolerance must be finite and positive, got " ++ Decimal.inMessage value

def Context.message (c : Context) : String :=
  "dataset `" ++ c.dataset ++ "` (epsilon=" ++ Decimal.inMessage c.epsilon
    ++ s!", min_observations={c.minObservations})"

namespace Failure

/-- The text shown for a failure. A context comes before the text of its cause. -/
def message : Failure → String
  | .contract output requested detail =>
    "contract violation on `" ++ output.name ++ s!"` (requested: {requested}): " ++ detail
  | .mismatch unequal => "mismatch: " ++ unequal.message
  | .undefinedQuality reason => "quality metric undefined: " ++ reason.message
  | .invalidTolerance value => invalidToleranceMessage value
  | .shape what expected found => s!"shape mismatch in {what}: expected {expected}, found {found}"
  | .table cause => cause.message
  | .engine cause => cause.message
  | .inContext context cause => context.message ++ ": " ++ cause.message

/-! ### Contexts and causes -/

/-- The failure placed in a context, unless it has one already. -/
def within (context : Context) : Failure → Failure
  | .inContext own cause => .inContext own cause
  | failure => .inContext context failure

/-- The failure below all contexts. -/
def root : Failure → Failure
  | .inContext _ cause => cause.root
  | failure => failure

def context? : Failure → Option Context
  | .inContext context _ => some context
  | _ => none

/-- The error of the engine, if it was the engine that failed. -/
def engineError? (f : Failure) : Option EngineError :=
  match f.root with
  | .engine cause => some cause
  | _ => none

/-- Below all contexts, the engine broke its contract. -/
def isContract (f : Failure) : Bool :=
  match f.root with
  | .contract .. => true
  | _ => false

/-- Below all contexts, a comparison came out unequal. -/
def isMismatch (f : Failure) : Bool :=
  match f.root with
  | .mismatch _ => true
  | _ => false

/-- Below all contexts, the quality index has no value. -/
def isUndefinedQuality (f : Failure) : Bool :=
  match f.root with
  | .undefinedQuality _ => true
  | _ => false

def isEngine (f : Failure) : Bool := f.engineError?.isSome

end Failure

end DensityAudit
