import DensityAudit.Settings.Document
import DensityAudit.Settings.Environment

/-!
# Changing settings step by step

Every way to come by settings as one kind of change. A change that fails leaves the settings as they were.
-/

namespace DensityAudit.Settings

/-- A way to make settings, from nothing or from earlier ones. -/
inductive Change where
  /-- The settings to start from. -/
  | standard
  /-- The settings that a document describes. -/
  | document (text : String)
  /-- The usable values of environment variables. -/
  | environment (values : Environment)
  /-- Another tolerance. -/
  | tolerance (value : Float)
  /-- External datasets under a directory. -/
  | datasetRoot (root : String)

/-- How texts are read: documents as settings that are not checked yet, and numerals as numbers of any kind. -/
structure Readers where
  document? : String → Option Settings
  number? : String → Option Float

/-- Documents and numerals are read by their grammars. -/
def Readers.standard : Readers := ⟨described?, Decimal.freeform?⟩

/-- The settings after a change, or why it fails. -/
def Change.apply (s : Settings) (change : Change) (readers : Readers := .standard) : Except SettingsError Settings :=
  match change with
  | .standard => .ok Settings.standard
  | .document text => Settings.ofDocument text readers.document?
  | .environment values => .ok (s.override values readers.number?)
  | .tolerance value => s.withTolerance value
  | .datasetRoot root => .ok (s.withDatasetRoot root)

/-- The settings after a change that may fail. -/
def after (s : Settings) (change : Change) (readers : Readers := .standard) : Settings :=
  match change.apply s readers with
  | .ok changed => changed
  | .error _ => s

/-- The settings after several changes in turn. -/
def afterAll (s : Settings) (changes : List Change) (readers : Readers := .standard) : Settings :=
  changes.foldl (fun s change => s.after change readers) s

end DensityAudit.Settings
