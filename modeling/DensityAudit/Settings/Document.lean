import DensityAudit.Settings.Basic
import DensityAudit.Toml.Field
import DensityAudit.Toml.Library

/-!
# Settings as documents

Settings are written as one field each, without a field for an unknown directory. Reading fills in the
standard settings for missing keys, passes over other keys, and ends with the check of the tolerance.
-/

namespace DensityAudit.Settings

/-- The settings that a document describes, before the check of the tolerance. -/
def fromEntries? (entries : Toml.Entries) : Option Settings := do
  let tolerance ← entries.withDefault? "default_relative_tolerance" Toml.Value.number? standard.tolerance
  let datasetRoot? ← entries.withDefault? "dataset_root" (fun v => v.text?.map some) standard.datasetRoot?
  let runExternal ← entries.withDefault? "run_external" Toml.Value.boolean? standard.runExternal
  some ⟨tolerance, datasetRoot?, runExternal⟩

/-- The settings that a text describes to a library, before the check of the tolerance. -/
def describedBy? (library : Toml.Library) (text : String) : Option Settings := (library.read? text).bind fromEntries?

/-- The settings that a text describes by the grammar. -/
def described? (text : String) : Option Settings := describedBy? .grammar text

/-- The settings that a document describes. Documents are read by `read?`. -/
def ofDocument (text : String) (read? : String → Option Settings := described?) : Except SettingsError Settings :=
  match read? text with
  | some settings => settings.checked
  | none => .error .unreadable

def fields (s : Settings) : List Toml.Field :=
  [⟨"default_relative_tolerance", .float s.tolerance⟩]
    ++ s.datasetRoot?.toList.map (fun root => ⟨"dataset_root", .string root⟩)
    ++ [⟨"run_external", .boolean s.runExternal⟩]

/-- The document that describes settings. -/
def document (s : Settings) : String := Toml.linesOf s.fields

/-- The document that a library writes for settings. -/
def documentBy? (library : Toml.Library) (s : Settings) : Option String := library.write? s.fields

end DensityAudit.Settings
