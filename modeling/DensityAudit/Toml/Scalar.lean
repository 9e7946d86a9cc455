import DensityAudit.Decimal.Numeral
import DensityAudit.Toml.Moment
import DensityAudit.Toml.Value

/-!
# Unquoted values

Numbers, booleans and moments are written without quotes and end where the first character stands that none
of them can hold. `scalar?` reads such a run of characters as a whole.
-/

namespace DensityAudit.Toml

open Decimal

/-- A character that an unquoted value can hold. -/
def isScalarChar (c : Char) : Bool := c.isAlphanum || c == '+' || c == '-' || c == '_' || c == '.' || c == ':'

/-- Digits with single group marks between them, and at least one digit. -/
def isGrouped (digit : Char → Bool) : List Char → Bool
  | [] => false
  | [c] => digit c
  | c :: '_' :: rest => digit c && isGrouped digit rest
  | c :: rest => digit c && isGrouped digit rest

/-- Decimal digits that start with a zero only if they are a lone zero. -/
def isWholePart (digits : List Char) : Bool :=
  isGrouped Char.isDigit digits && (digits.head? != some '0' || digits.length == 1)

/-- The integer, if it fits into sixty-four bits with a sign. -/
def integerInRange? (n : Int) : Option Value :=
  if -9223372036854775808 ≤ n ∧ n ≤ 9223372036854775807 then some (.integer n) else none

/-- The value of digits in some base. -/
def radixValue? (base : Nat) (digit : Char → Bool) (text : List Char) : Option Value :=
  if isGrouped digit text then
    let digits := text.filter (· != '_')
    integerInRange? (digits.foldl (fun n c => base * n + (if c.isDigit then c.toNat - 48 else c.toLower.toNat - 87)) 0 : Nat)
  else none

def isHexDigit (c : Char) : Bool := c.isDigit || ('a' ≤ c && c ≤ 'f') || ('A' ≤ c && c ≤ 'F')

/-- A numeral as a value: an integer without a fraction and a power, or a double that does not overflow
upwards. -/
def numeralValue? (n : Numeral) : Option Value :=
  if !isWholePart n.whole then none
  else match n.fraction?, n.power? with
    | none, none => integerInRange? n.integer
    | fraction, power =>
      let wellFormed := (fraction.map (isGrouped Char.isDigit)).getD true
        && (power.map fun p => isGrouped Char.isDigit p.2).getD true
      if wellFormed && !(n.value == infinite) then some (.float n.value) else none

def named? (text : List Char) : Option Value :=
  let (negative, name) := splitSign text
  if name = "inf".toList then some (.float (if negative then -infinite else infinite))
  else if name = "nan".toList then some (.float undefined)
  else if text = "true".toList then some (.boolean true)
  else if text = "false".toList then some (.boolean false)
  else none

/-- A number, boolean or moment. -/
def scalar? (text : List Char) : Option Value :=
  match text with
  | '0' :: 'x' :: digits => radixValue? 16 isHexDigit digits
  | '0' :: 'o' :: digits => radixValue? 8 (fun c => '0' ≤ c && c ≤ '7') digits
  | '0' :: 'b' :: digits => radixValue? 2 (fun c => c == '0' || c == '1') digits
  | _ =>
    match named? text with
    | some value => some value
    | none =>
      if isMoment text then some (.moment (String.ofList text))
      else (Numeral.split? text).bind numeralValue?

/-- Takes an unquoted value off a text. A date may be followed by a space and a time. -/
def scalarFront? (s : List Char) : Option (Value × List Char) :=
  let text := s.takeWhile isScalarChar
  let rest := s.dropWhile isScalarChar
  match isDate text, rest with
  | true, ' ' :: more =>
    let time := more.takeWhile isScalarChar
    if isTimeWithOffset time then some (.moment (String.ofList (text ++ ' ' :: time)), more.dropWhile isScalarChar)
    else (scalar? text).map fun value => (value, rest)
  | _, _ => (scalar? text).map fun value => (value, rest)

end DensityAudit.Toml
