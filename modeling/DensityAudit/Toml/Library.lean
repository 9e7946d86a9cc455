import DensityAudit.Toml.Reader
import DensityAudit.Toml.Writer

/-!
# Fields of records

A record is written as a list of fields and read from the entries of a document. How fields become a text and a text
becomes entries is a matter of the library that writes and reads documents. `Library.grammar` writes one line for each
field and reads by the grammar.
-/

namespace DensityAudit.Toml

/-- What a field of a record holds. -/
inductive Datum where
  | float (value : Float)
  | count (value : Nat)
  | boolean (value : Bool)
  | string (text : String)
  | strings (texts : List String)

namespace Datum

/-- The value that stands in a document for what the field holds. -/
def value : Datum → Value
  | float x => .float x
  | count n => .integer n
  | boolean b => .boolean b
  | string text => .string text
  | strings texts => .array (texts.map .string)

/-- The written form of the value. -/
def chars : Datum → List Char
  | float x => floatChars x
  | count n => natChars n
  | boolean b => booleanChars b
  | string text => stringChars text.toList
  | strings texts => arrayChars (texts.map fun text => stringChars text.toList)

/-- A document's integers have sixty-four bits with a sign, so a larger count cannot be written. -/
def fits : Datum → Bool
  | count n => decide (n ≤ 9223372036854775807)
  | _ => true

end Datum

/-- A field of a record. -/
structure Field where
  key : String
  datum : Datum

def Field.chars (field : Field) : List Char := lineChars field.key field.datum.chars

def linesOf (fields : List Field) : String := String.ofList (fields.flatMap Field.chars)

/-- A way to write and read documents; both may fail. -/
structure Library where
  write? : List Field → Option String
  read? : String → Option Entries

/-- Documents are written line by line and read by the grammar. -/
def Library.grammar : Library where
  write? fields := if fields.all fun field => field.datum.fits then some (linesOf fields) else none
  read? := document?

end DensityAudit.Toml
