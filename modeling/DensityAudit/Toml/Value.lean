/-!
# TOML values

The values that a TOML document can hold. A table remembers how it came to be, because that decides
whether a later line may add to it.
-/

namespace DensityAudit.Toml

/-- How a table came to be. -/
inductive Origin where
  /-- By a header of its own, or as the document itself. -/
  | header
  /-- By being named on the way to the table of some header. -/
  | implied
  /-- By a dotted key. -/
  | dotted
  /-- By being written between braces. -/
  | inline
deriving DecidableEq

/-- A value of a TOML document. Tables list their entries in the order of the first mention. -/
inductive Value where
  | string (text : String)
  | integer (value : Int)
  | float (value : Float)
  | boolean (value : Bool)
  /-- A date, a time or both, kept as written. -/
  | moment (text : String)
  | array (items : List Value)
  | table (origin : Origin) (entries : List (String × Value))
  /-- The tables of repeated double-bracketed headers. -/
  | tables (elements : List (List (String × Value)))

abbrev Entries := List (String × Value)

namespace Value

/-- The items of an array, of whichever kind. -/
def items? : Value → Option (List Value)
  | .array items => some items
  | .tables elements => some (elements.map (.table .header))
  | _ => none

def text? : Value → Option String
  | .string text => some text
  | _ => none

def boolean? : Value → Option Bool
  | .boolean b => some b
  | _ => none

def nat? : Value → Option Nat
  | .integer n => if 0 ≤ n then some n.toNat else none
  | _ => none

end Value

end DensityAudit.Toml
