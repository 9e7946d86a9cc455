import DensityAudit.Proofs.Decimal.Text
import DensityAudit.Toml.Scalar
import DensityAudit.Toml.Writer

/-!
# Unquoted values are read back

A number is written with digits, a point and a minus in front only (`IsNumeral`), so none of the other readings of an
unquoted value gets hold of it: it is no name, no moment and in no base but ten. What remains is the numeral, and the
value of a written numeral is the number that was written (`spells_floatChars`, `spells_natChars`).
-/

namespace DensityAudit.Toml

open Decimal

/-! ### Texts of numerals -/

/-- A character of a written number. -/
def isNumeralChar (c : Char) : Bool := c.isDigit || c == '.' || c == '-'

/-- A text of digits and points with perhaps a minus in front. -/
structure IsNumeral (text : List Char) : Prop where
  chars : ∀ c ∈ text, isNumeralChar c = true
  /-- A minus stands nowhere but in front. -/
  sign : '-' ∉ text.tail

/-- A date has a minus after the year. -/
theorem minus_of_isDate {text : List Char} (date : isDate text = true) : text[4]? = some '-' := by
  unfold isDate at date
  split at date
  · rfl
  · cases date

/-- A time has a colon after the hour. -/
theorem colon_of_isTimeThen {tail : List Char → Bool} {text : List Char} (time : isTimeThen tail text = true) :
    text[2]? = some ':' := by
  unfold isTimeThen at time
  split at time
  · rfl
  · cases time

namespace IsNumeral

variable {text : List Char}

theorem not_mem (h : IsNumeral text) {c : Char} (other : isNumeralChar c = false) : c ∉ text := fun mem => by
  rw [h.chars c mem] at other
  cases other

theorem not_minus (h : IsNumeral text) (n : ℕ) : text[n + 1]? ≠ some '-' := fun minus => by
  rw [← List.getElem?_tail] at minus
  exact h.sign (List.mem_of_getElem? minus)

/-- A number is not a date. -/
theorem isDate_eq_false (h : IsNumeral text) : isDate text = false :=
  Bool.eq_false_iff.2 fun date => h.not_minus 3 (minus_of_isDate date)

/-- A number is not a moment of any kind. -/
theorem isMoment_eq_false (h : IsNumeral text) : isMoment text = false := by
  rw [isMoment, h.isDate_eq_false, Bool.false_or, Bool.or_eq_false_iff]
  constructor
  · exact Bool.eq_false_iff.2 fun time => h.not_mem rfl (List.mem_of_getElem? (colon_of_isTimeThen time))
  · rw [isDateTime, Bool.and_eq_false_iff]
    left
    rw [Bool.eq_false_iff]
    intro date
    have minus := minus_of_isDate date
    rw [List.getElem?_take_of_lt (by decide)] at minus
    exact h.not_minus 3 minus

theorem splitSign_subset (text : List Char) : (splitSign text).2 ⊆ text := by
  rw [splitSign.eq_def]
  split
  · exact List.subset_cons_self _ _
  · exact List.subset_cons_self _ _
  · exact List.Subset.refl _

theorem named?_eq_none (h : IsNumeral text) : named? text = none := by
  have name {c : Char} (other : isNumeralChar c = false) : c ∉ (splitSign text).2 := fun mem =>
    h.not_mem other (splitSign_subset text mem)
  rw [named?]
  dsimp only
  rw [if_neg, if_neg, if_neg, if_neg]
  · exact fun same => h.not_mem (c := 'f') rfl (same ▸ by decide)
  · exact fun same => h.not_mem (c := 't') rfl (same ▸ by decide)
  · exact fun same => name (c := 'n') rfl (same ▸ by decide)
  · exact fun same => name (c := 'i') rfl (same ▸ by decide)

/-- A text of a number is read as a numeral and nothing else. -/
theorem scalar?_eq (h : IsNumeral text) : scalar? text = (Numeral.split? text).bind numeralValue? := by
  rw [scalar?.eq_def]
  split
  case h_1 => exact absurd (by simp) (h.not_mem (c := 'x') rfl)
  case h_2 => exact absurd (by simp) (h.not_mem (c := 'o') rfl)
  case h_3 => exact absurd (by simp) (h.not_mem (c := 'b') rfl)
  case h_4 =>
    rw [h.named?_eq_none, h.isMoment_eq_false]
    rfl

theorem of_digits {digits : List Char} (all : ∀ c ∈ digits, c.isDigit = true) : IsNumeral digits := by
  refine ⟨fun c mem => by rw [isNumeralChar, all c mem]; rfl, fun mem => ?_⟩
  have := all _ (List.mem_of_mem_tail mem)
  cases this

/-- A positional text with or without a minus is a number. -/
theorem of_positional {fraction : List Char} {whole : ℕ} (positional : Positional text whole fraction) (negative : Bool) :
    IsNumeral (signed negative text) := by
  have unsigned : ∀ c ∈ text, isNumeralChar c = true ∧ c ≠ '-' := by
    intro c mem
    rw [positional.form, List.mem_append, List.mem_cons] at mem
    rcases mem with digit | rfl | digit
    · have digit := isDigit_of_mem_digitChars digit
      refine ⟨by rw [isNumeralChar, digit]; rfl, ?_⟩
      rintro rfl
      cases digit
    · exact ⟨by decide, by decide⟩
    · have digit := positional.digits c digit
      refine ⟨by rw [isNumeralChar, digit]; rfl, ?_⟩
      rintro rfl
      cases digit
  cases negative with
  | true =>
    have minus : isNumeralChar '-' = true := by decide
    exact ⟨List.forall_mem_cons.2 ⟨minus, fun c mem => (unsigned c mem).1⟩, fun mem => (unsigned _ mem).2 rfl⟩
  | false => exact ⟨fun c mem => (unsigned c mem).1, fun mem => (unsigned _ (List.mem_of_mem_tail mem)).2 rfl⟩

end IsNumeral

/-! ### Digits -/

theorem isGrouped_of_digits {digits : List Char} (all : ∀ c ∈ digits, c.isDigit = true) (nonempty : digits ≠ []) :
    isGrouped Char.isDigit digits = true := by
  fun_induction isGrouped Char.isDigit digits with
  | case1 => exact absurd rfl nonempty
  | case2 c => exact all c List.mem_cons_self
  | case3 c rest ih =>
    have mark := all '_' (by simp)
    cases mark
  | case4 c rest empty unmarked ih =>
    have first := all c List.mem_cons_self
    rw [first, ih (fun d mem => all d (List.mem_cons_of_mem c mem)) empty]
    rfl

theorem isWholePart_digitChars (n : ℕ) : isWholePart (digitChars n) = true := by
  rw [isWholePart, isGrouped_of_digits (fun c => isDigit_of_mem_digitChars) (digitChars_ne_nil n), Bool.true_and]
  rcases Nat.eq_zero_or_pos n with rfl | positive
  · rfl
  · rw [bne_iff_ne.2 (head?_digitChars_ne positive), Bool.true_or]

/-! ### Written scalars -/

/-- The text spells a value without quotes, and cannot be the date in front of a time. -/
structure Spells (text : List Char) (v : Value) : Prop where
  chars : ∀ c ∈ text, isScalarChar c = true
  undated : isDate text = false
  read : scalar? text = some v

/-- A number spells the value that its parts have. -/
theorem IsNumeral.spells {text : List Char} {v : Value} (numeral : IsNumeral text)
    (read : (Numeral.split? text).bind numeralValue? = some v) : Spells text v where
  chars c mem := by
    have char := numeral.chars c mem
    rw [isNumeralChar, Bool.or_eq_true, Bool.or_eq_true, beq_iff_eq, beq_iff_eq] at char
    rcases char with (digit | rfl) | rfl
    · rw [isScalarChar, Char.isAlphanum, digit, Bool.or_true]
      rfl
    · decide
    · decide
  undated := numeral.isDate_eq_false
  read := by rw [numeral.scalar?_eq, read]

/-- A count of sixty-three bits spells its integer. -/
theorem spells_natChars {n : ℕ} (fits : n ≤ 9223372036854775807) : Spells (natChars n) (.integer n) := by
  refine (IsNumeral.of_digits fun c => isDigit_of_mem_digitChars).spells ?_
  rw [Numeral.split?_digitChars, Option.bind_some, numeralValue?, isWholePart_digitChars, if_neg (by decide)]
  dsimp only
  rw [integerInRange?, Numeral.integer_digitChars, if_pos]
  omega

/-- A positional numeral is a double, unless it overflows. -/
theorem numeralValue?_positional {text fraction : List Char} {whole : ℕ} (positional : Positional text whole fraction)
    {negative : Bool} (finite : (Positional.numeral negative whole fraction).value.isFinite = true) :
    numeralValue? (Positional.numeral negative whole fraction) =
      some (.float (Positional.numeral negative whole fraction).value) := by
  have grouped := isGrouped_of_digits positional.digits positional.nonempty
  have below := beq_infinite finite
  rw [Positional.numeral] at below ⊢
  rw [numeralValue?, isWholePart_digitChars, if_neg (by decide)]
  dsimp only
  rw [if_pos]
  rw [Option.map_some, Option.getD_some, grouped, below]
  rfl

/-- A double that is defined is read back as it is: also a negative zero, and an infinity by its name. -/
theorem spells_floatChars {x : Float} (defined : x.isNaN = false) : Spells (floatChars x) (.float x) := by
  cases finite : x.isFinite with
  | true =>
    obtain ⟨text, whole, fraction, form, positional, value⟩ := exists_positional_chars finite
    rw [floatChars, form]
    refine (IsNumeral.of_positional positional _).spells ?_
    rw [positional.split?_eq, Option.bind_some, numeralValue?_positional positional (by rwa [value]), value]
  | false =>
    have named := eq_infinite defined finite
    rw [floatChars, chars_eq_signed documentStyle defined, magnitudeChars, finite, if_neg Bool.false_ne_true, named]
    cases Binary64.signBit x with
    | true => exact ⟨List.all_eq_true.1 rfl, rfl, rfl⟩
    | false => exact ⟨List.all_eq_true.1 rfl, rfl, rfl⟩

theorem spells_booleanChars (b : Bool) : Spells (booleanChars b) (.boolean b) := by
  cases b with
  | true => exact ⟨List.all_eq_true.1 rfl, rfl, rfl⟩
  | false => exact ⟨List.all_eq_true.1 rfl, rfl, rfl⟩

/-- An unquoted value ends where a character stands that it cannot hold. -/
theorem Spells.scalarFront?_eq {text : List Char} {v : Value} (spells : Spells text v) {rest : List Char}
    (stop : ∀ c ∈ rest.head?, isScalarChar c = false) : scalarFront? (text ++ rest) = some (v, rest) := by
  rw [scalarFront?, takeWhile_append_stop spells.chars stop, dropWhile_append_stop spells.chars stop, spells.undated]
  dsimp only
  rw [spells.read]
  rfl

end DensityAudit.Toml
