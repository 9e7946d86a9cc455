import DensityAudit.Request.Basic
import DensityAudit.Toml.Field
import DensityAudit.Toml.Library

/-!
# Requests as documents

A request is written as three fields and read from a document that has these three keys, whatever else it
holds.
-/

namespace DensityAudit

/-- A document whose every entry is a set of outputs. -/
def OutputSet.ofDocument? (text : String) : Option (List (String × OutputSet)) :=
  (Toml.document? text).bind fun entries =>
    entries.mapM fun entry => (entry.2.outputSet?).map fun outputs => (entry.1, outputs)

namespace Request

def fields (r : Request) : List Toml.Field :=
  [⟨"epsilon", .float r.epsilon⟩, ⟨"min_observations", .count r.minObservations⟩,
    ⟨"result_options", .strings (r.outputs.toList.map Output.name)⟩]

/-- The request that the entries of a document describe. -/
def fromEntries? (entries : Toml.Entries) : Option Request := do
  let epsilon ← entries.required? "epsilon" Toml.Value.number?
  let minObservations ← entries.required? "min_observations" Toml.Value.nat?
  let outputs ← entries.required? "result_options" Toml.Value.outputSet?
  some ⟨epsilon, minObservations, outputs⟩

/-- The request that a document describes. -/
def ofDocument? (text : String) (library : Toml.Library := .grammar) : Option Request :=
  (library.read? text).bind fromEntries?

/-- The document that describes a request. -/
def document? (r : Request) (library : Toml.Library := .grammar) : Option String := library.write? r.fields

end Request

end DensityAudit
