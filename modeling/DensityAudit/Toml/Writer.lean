import DensityAudit.Decimal.Text
import DensityAudit.Toml.StringForm

/-!
# Writing TOML documents

Each entry is one line, `key = value`. The value is a string, a number, a boolean or an array on the same
line; only a string with newlines goes over several lines.
-/

namespace DensityAudit.Toml

def stringChars (text : List Char) : List Char := (StringForm.ofText text).write text

def floatChars (x : Float) : List Char := Decimal.chars Decimal.documentStyle x

def natChars (n : Nat) : List Char := Decimal.digitChars n

def booleanChars (b : Bool) : List Char := if b then "true".toList else "false".toList

/-- The written form of an array, from those of its items. -/
def arrayChars (items : List (List Char)) : List Char := '[' :: (", ".toList).intercalate items ++ [']']

/-- A line that assigns a written value to a key. -/
def lineChars (key : String) (value : List Char) : List Char := key.toList ++ " = ".toList ++ value ++ ['\n']

end DensityAudit.Toml
