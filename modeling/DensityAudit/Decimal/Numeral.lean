import DensityAudit.Decimal.Nearest

/-!
# Decimal numerals

A numeral has a sign, digits, perhaps a point with more digits, and perhaps a power of ten. `Numeral.split?`
takes a text apart without deciding which parts may be missing or whether digits may be grouped: that differs
between the places where numerals are read. `freeform?` is the reading where either side of the point may
be empty and the special values may be spelled in any case.
-/

namespace DensityAudit.Decimal

def digitsValue (digits : List Char) : Nat := Nat.ofDigitChars 10 digits 0

/-- Takes a sign off the front of a text; true is minus. -/
def splitSign : List Char → Bool × List Char
  | '-' :: rest => (true, rest)
  | '+' :: rest => (false, rest)
  | text => (false, text)

/-- A digit, or the mark that groups digits where that is allowed. -/
def isDigitOrGroup (c : Char) : Bool := c.isDigit || c == '_'

/-- A numeral in its parts. -/
structure Numeral where
  negative : Bool
  whole : List Char
  /-- What follows the point, if there is a point. -/
  fraction? : Option (List Char)
  /-- The sign and the digits of the power of ten, if there is one. -/
  power? : Option (Bool × List Char)

namespace Numeral

/-- Takes a power of ten off a text that must end with it. -/
def splitPower? : List Char → Option (Option (Bool × List Char))
  | [] => some none
  | c :: rest =>
    let (negative, digits) := splitSign rest
    if (c == 'e' || c == 'E') && digits.all isDigitOrGroup then some (some (negative, digits)) else none

/-- The parts of a text, if it has the outline of a numeral. -/
def split? (text : List Char) : Option Numeral :=
  let (negative, body) := splitSign text
  let whole := body.takeWhile isDigitOrGroup
  match body.dropWhile isDigitOrGroup with
  | '.' :: rest =>
    (splitPower? (rest.dropWhile isDigitOrGroup)).map fun power =>
      ⟨negative, whole, some (rest.takeWhile isDigitOrGroup), power⟩
  | rest => (splitPower? rest).map fun power => ⟨negative, whole, none, power⟩

/-- The digits after the point. -/
def fraction (n : Numeral) : List Char := n.fraction?.getD []

def power (n : Numeral) : Int :=
  match n.power? with
  | none => 0
  | some (negative, digits) =>
    let size : Int := digitsValue (digits.filter Char.isDigit)
    if negative then -size else size

/-- The double nearest to the numeral. -/
def value (n : Numeral) : Float :=
  let fraction := n.fraction.filter Char.isDigit
  signedNearest n.negative (digitsValue (n.whole.filter Char.isDigit ++ fraction)) (n.power - fraction.length)

/-- The value of a numeral without a fraction or a power. -/
def integer (n : Numeral) : Int :=
  let size : Int := digitsValue (n.whole.filter Char.isDigit)
  if n.negative then -size else size

end Numeral

def infinite : Float := Float.ofBits (UInt64.ofNat infinityBits)

def undefined : Float := 0.0 / 0.0

/-- The value of a special name, given in lower case. -/
def special? (name : String) : Option Float :=
  if name = "inf" ∨ name = "infinity" then some infinite
  else if name = "nan" then some undefined
  else none

/-- Reads a number as people write it: `5.`, `.5`, `1e-9` and `Infinity` are all numbers. Digits are not
grouped, and there is at least one before the power of ten. -/
def freeform? (text : String) : Option Float :=
  let (negative, body) := splitSign text.toList
  match special? (String.ofList (body.map Char.toLower)) with
  | some x => some (if negative then -x else x)
  | none => do
    let n ← Numeral.split? text.toList
    let power := (n.power?.map Prod.snd).getD ['0']
    if (n.whole ++ n.fraction ++ power).all Char.isDigit && !(n.whole ++ n.fraction).isEmpty && !power.isEmpty then
      some n.value
    else none

end DensityAudit.Decimal
