import DensityAudit.Output
import DensityAudit.Table.Basic

/-!
# Errors of clustering engines

The reasons why an engine refuses a job, and why an answer refuses to show an output.
-/

namespace DensityAudit

/-- Why an engine failed or an output could not be read. -/
inductive EngineError where
  /-- The data have no rows. -/
  | emptyInput
  /-- A parameter has a value that no clustering is defined for. -/
  | invalidParameter (name message : String)
  /-- The weights are not one column with a value per data row. -/
  | weightShape (expectedRows rows columns : Nat)
  /-- The output was not part of the request. -/
  | notRequested (output : Output)
  /-- A table of the answer could not be built. -/
  | table (cause : TableError)
deriving DecidableEq

def EngineError.message : EngineError → String
  | .emptyInput => "empty input"
  | .invalidParameter name message => s!"invalid parameter {name}: {message}"
  | .weightShape expectedRows rows columns => s!"weights must be {expectedRows}x1, got {rows}x{columns}"
  | .notRequested output => "result option `" ++ output.name ++ "` was not requested"
  | .table cause => cause.message

end DensityAudit
