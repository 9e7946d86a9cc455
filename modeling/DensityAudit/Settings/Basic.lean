import DensityAudit.Compare.Tolerance

/-!
# Settings of an audit

The tolerance for quality comparisons that bring none of their own, and where external datasets are. A
tolerance that is not finite and positive is refused wherever settings are made with a check.
-/

namespace DensityAudit

/-- Why settings could not be made. -/
inductive SettingsError where
  /-- The document is not one, or a field is of the wrong kind. -/
  | unreadable
  | invalidTolerance (value : Float)

/-- The text shown for an invalid tolerance; an unreadable document has no text of its own. -/
def SettingsError.message : SettingsError → String
  | .unreadable => "invalid oracle configuration"
  | .invalidTolerance value => "invalid oracle configuration: " ++ invalidToleranceMessage value

/-- The settings of an audit. -/
structure Settings where
  /-- The relative tolerance of quality comparisons that bring none. -/
  tolerance : Float
  /-- The directory that paths of external datasets start from. -/
  datasetRoot? : Option String
  /-- External datasets are to be used. -/
  runExternal : Bool

namespace Settings

/-- The settings to start from. -/
def standard : Settings := ⟨1e-4, none, false⟩

/-- The settings themselves, if their tolerance can accept anything. -/
def checked (s : Settings) : Except SettingsError Settings :=
  if isTolerance s.tolerance then .ok s else .error (.invalidTolerance s.tolerance)

/-- The settings with another tolerance. -/
def withTolerance (s : Settings) (tolerance : Float) : Except SettingsError Settings :=
  if isTolerance tolerance then .ok { s with tolerance := tolerance } else .error (.invalidTolerance tolerance)

/-- The settings with external datasets under a directory. -/
def withDatasetRoot (s : Settings) (root : String) : Settings :=
  { s with datasetRoot? := some root, runExternal := true }

/-- A path below a directory. An absolute path replaces the directory; otherwise one slash stands between. -/
def joinPath (root path : String) : String :=
  if path.toList.head? = some '/' then path
  else if root.isEmpty || root.toList.getLast? = some '/' then root ++ path
  else root ++ "/" ++ path

/-- Where an external dataset is, if external datasets are used and their directory is known. -/
def resolve? (s : Settings) (path : String) : Option String :=
  if s.runExternal then s.datasetRoot?.map fun root => joinPath root path else none

end Settings

end DensityAudit
