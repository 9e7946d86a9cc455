import DensityAudit.Decimal.Shortest

/-!
# Decimal texts of doubles

A double is written with its shortest digits, positionally at every size: no exponent is ever used.
What differs between the texts of the library is a `Style`: how the special values are spelled and
whether a whole number keeps a fraction.
-/

namespace DensityAudit.Decimal

/-- The decisions a format leaves open. -/
structure Style where
  /-- What follows the digits of a whole number. -/
  wholeTail : String
  /-- The text of an undefined value. -/
  undefined : String
  /-- The text of positive infinity. -/
  infinite : String

/-- The decimal digits of `n`. -/
def digitChars (n : Nat) : List Char := Nat.toDigits 10 n

/-- The decimal digits of `n`, with zeros in front up to `width`. -/
def paddedDigits (width n : Nat) : List Char :=
  List.replicate (width - (digitChars n).length) '0' ++ digitChars n

/-- The positional text of a decimal: all its digits, with a point only if there is a fraction. -/
def Plain.text (style : Style) (d : Plain) : List Char :=
  if 0 ≤ d.exponent then digitChars (d.digits * Nat.pow 10 d.exponent.toNat) ++ style.wholeTail.toList
  else
    let places := (-d.exponent).toNat
    let whole := d.digits / Nat.pow 10 places
    let fraction := d.digits % Nat.pow 10 places
    if fraction = 0 then digitChars whole ++ style.wholeTail.toList
    else digitChars whole ++ '.' :: paddedDigits places fraction

/-- The text of a double's magnitude. -/
def magnitudeChars (style : Style) (x : Float) : List Char :=
  if x.isFinite then
    let p := Binary64.parts x
    if p.mantissa = 0 then '0' :: style.wholeTail.toList else (shortest p).text style
  else style.infinite.toList

/-- The text of a double. A negative zero keeps its sign. -/
def chars (style : Style) (x : Float) : List Char :=
  if x.isNaN then style.undefined.toList
  else if Binary64.signBit x then '-' :: magnitudeChars style x
  else magnitudeChars style x

/-- The spelling used in messages: whole numbers have no fraction. -/
def messageStyle : Style := ⟨"", "NaN", "inf"⟩

/-- The spelling used in documents, where a fraction tells a double from an integer. -/
def documentStyle : Style := ⟨".0", "nan", "inf"⟩

def inMessage (x : Float) : String := String.ofList (chars messageStyle x)

end DensityAudit.Decimal
