import DensityAudit.Decimal.Numeral
import DensityAudit.Settings.Basic

/-!
# Settings from environment variables

Each setting has one variable. A variable that is not set, or whose value is not usable, changes nothing.
-/

namespace DensityAudit.Settings

/-- The values of the variables that are set. -/
abbrev Environment := String → Option String

def toleranceVariable : String := "CLUMP_ORACLE_TOLERANCE"

def datasetRootVariable : String := "CLUMP_ORACLE_DATA_DIR"

def runExternalVariable : String := "CLUMP_ORACLE_RUN_EXTERNAL"

/-- A tolerance that can accept something. Numerals are read by `number?`. -/
def usableTolerance? (number? : String → Option Float) (text : String) : Option Float :=
  (number? text).filter isTolerance

/-- A directory's name, which is not empty. -/
def usableRoot? (text : String) : Option String := if text.isEmpty then none else some text

/-- A switch: a word or a digit. -/
def usableSwitch? (text : String) : Option Bool :=
  if text = "true" ∨ text = "1" then some true
  else if text = "false" ∨ text = "0" then some false
  else none

/-- The settings with the usable values of the variables that are set. -/
def override (s : Settings) (environment : Environment) (number? : String → Option Float := Decimal.freeform?) : Settings :=
  { tolerance := ((environment toleranceVariable).bind (usableTolerance? number?)).getD s.tolerance
    datasetRoot? := ((environment datasetRootVariable).bind usableRoot?).or s.datasetRoot?
    runExternal := ((environment runExternalVariable).bind usableSwitch?).getD s.runExternal }

end DensityAudit.Settings
