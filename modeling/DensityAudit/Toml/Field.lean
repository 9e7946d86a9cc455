import DensityAudit.Decimal.Nearest
import DensityAudit.Output
import DensityAudit.Toml.Reader

/-!
# Typed fields of documents

How a value of a document is read as a number, a flag, a text or a set of outputs. A field is read by its
key; a reader for a field that may be missing tells "missing" from "of the wrong kind".
-/

namespace DensityAudit.Toml

/-- A number: a float, or an integer taken as the nearest double. -/
def Value.number? : Value → Option Float
  | .float x => some x
  | .integer n => some (Decimal.signedNearest (decide (n < 0)) n.natAbs 0)
  | _ => none

/-- An output's name, as a string or as the key of a table of one empty entry. -/
def Value.output? : Value → Option Output
  | .string name => Output.ofName? name
  | .table _ [(name, content)] =>
    match content with
    | .array [] => Output.ofName? name
    | .tables [] => Output.ofName? name
    | .table _ [] => Output.ofName? name
    | _ => none
  | _ => none

/-- A set of outputs, as an array of names. -/
def Value.outputSet? (value : Value) : Option OutputSet :=
  value.items?.bind fun items => (items.mapM Value.output?).map OutputSet.ofList

/-- The field of a key, read by `read`; it must be there. -/
def Entries.required? {α : Type} (entries : Entries) (key : String) (read : Value → Option α) : Option α :=
  (entries.get? key).bind read

/-- The field of a key, read by `read`, or a default if it is missing. -/
def Entries.withDefault? {α : Type} (entries : Entries) (key : String) (read : Value → Option α) (default : α) :
    Option α :=
  match entries.get? key with
  | some value => read value
  | none => some default

end DensityAudit.Toml
