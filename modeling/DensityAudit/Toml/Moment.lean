/-!
# Dates and times

The form of the moments that a TOML document can hold: a date, a time, or both with perhaps an offset from
universal time. Only dates of the calendar and times of a day are accepted; a minute may have a leap second.
-/

namespace DensityAudit.Toml

/-- The number written by two digits. -/
def twoDigits? (a b : Char) : Option Nat :=
  if a.isDigit && b.isDigit then some (10 * (a.toNat - 48) + (b.toNat - 48)) else none

/-- Two digits write a number from `low` to `high`. -/
def twoDigitsIn (low high : Nat) (a b : Char) : Bool :=
  match twoDigits? a b with
  | some n => decide (low ≤ n) && decide (n ≤ high)
  | none => false

def isLeapYear (year : Nat) : Bool := (year % 4 == 0 && year % 100 != 0) || year % 400 == 0

def daysInMonth (year month : Nat) : Nat :=
  if month = 2 then (if isLeapYear year then 29 else 28)
  else if month = 4 ∨ month = 6 ∨ month = 9 ∨ month = 11 then 30
  else 31

/-- A date as year, month and day. -/
def isDate : List Char → Bool
  | [y₁, y₂, y₃, y₄, '-', m₁, m₂, '-', d₁, d₂] =>
    match twoDigits? y₁ y₂, twoDigits? y₃ y₄, twoDigits? m₁ m₂ with
    | some century, some year, some month =>
      decide (1 ≤ month) && decide (month ≤ 12) && twoDigitsIn 1 (daysInMonth (100 * century + year) month) d₁ d₂
    | _, _, _ => false
  | _ => false

/-- A distance from universal time, which may be missing. -/
def isOffset : List Char → Bool
  | [] => true
  | ['Z'] => true
  | ['z'] => true
  | [sign, h₁, h₂, ':', m₁, m₂] => (sign == '+' || sign == '-') && twoDigitsIn 0 23 h₁ h₂ && twoDigitsIn 0 59 m₁ m₂
  | _ => false

/-- A time of day, followed by a text with the given property. -/
def isTimeThen (tail : List Char → Bool) : List Char → Bool
  | h₁ :: h₂ :: ':' :: m₁ :: m₂ :: ':' :: s₁ :: s₂ :: rest =>
    twoDigitsIn 0 23 h₁ h₂ && twoDigitsIn 0 59 m₁ m₂ && twoDigitsIn 0 60 s₁ s₂ &&
      match rest with
      | '.' :: fraction => !(fraction.takeWhile Char.isDigit).isEmpty && tail (fraction.dropWhile Char.isDigit)
      | _ => tail rest
  | _ => false

/-- A time of day, with no offset. -/
def isTime (s : List Char) : Bool := isTimeThen List.isEmpty s

/-- A time of day with perhaps an offset. -/
def isTimeWithOffset (s : List Char) : Bool := isTimeThen isOffset s

/-- A date with a time, joined by the letter T. -/
def isDateTime (s : List Char) : Bool :=
  isDate (s.take 10) &&
    match s.drop 10 with
    | 'T' :: time => isTimeWithOffset time
    | 't' :: time => isTimeWithOffset time
    | _ => false

/-- A moment written without blanks. -/
def isMoment (s : List Char) : Bool := isDate s || isTime s || isDateTime s

end DensityAudit.Toml
