import DensityAudit.Decimal.Numeral
import DensityAudit.Decimal.Text
import DensityAudit.Proofs.Decimal.Shortest

/-!
# Decimal texts are read back

The text of a finite double in a document is a whole part, a point and at least one more digit (`Positional`), perhaps
with a minus in front. Its digits are those of the shortest decimal, so the numeral that the text is taken apart into has
the double as its value (`exists_positional_chars`).
-/

namespace DensityAudit.Decimal

open Binary64 (Parts ofMagnitude magnitudeBits signBit)

/-! ### Digits -/

theorem isDigit_of_mem_digitChars {n : ℕ} {c : Char} (h : c ∈ digitChars n) : c.isDigit = true :=
  Nat.isDigit_of_mem_toDigits (by decide) (by decide) h

theorem digitChars_ne_nil (n : ℕ) : digitChars n ≠ [] := Nat.toDigits_ne_nil

theorem exists_digitChars_eq_cons (n : ℕ) : ∃ c rest, digitChars n = c :: rest ∧ c.isDigit = true := by
  obtain ⟨c, rest, form⟩ := List.exists_cons_of_ne_nil (digitChars_ne_nil n)
  exact ⟨c, rest, form, isDigit_of_mem_digitChars (form ▸ List.mem_cons_self)⟩

/-- Written digits are read back as the number. -/
theorem digitsValue_digitChars (n : ℕ) : digitsValue (digitChars n) = n := Nat.ofDigitChars_toDigits (by decide) (by decide)

/-- Digits that follow move the ones before them up. -/
theorem digitsValue_append (a b : List Char) :
    digitsValue (a ++ b) = digitsValue a * 10 ^ b.length + digitsValue b := by
  rw [digitsValue, Nat.ofDigitChars_append, Nat.ofDigitChars_eq_ofDigitChars_zero, Nat.mul_comm]
  rfl

theorem isDigit_of_mem_paddedDigits {width n : ℕ} {c : Char} (h : c ∈ paddedDigits width n) : c.isDigit = true := by
  rcases List.mem_append.1 h with padding | digits
  · rw [List.eq_of_mem_replicate padding]
    rfl
  · exact isDigit_of_mem_digitChars digits

/-- Zeros in front do not change the number. -/
theorem digitsValue_paddedDigits (width n : ℕ) : digitsValue (paddedDigits width n) = n := by
  have zeros (k : ℕ) : digitsValue (List.replicate k '0') = 0 := by
    rw [digitsValue, Nat.ofDigitChars_replicate_zero, Nat.mul_zero]
  rw [paddedDigits, digitsValue_append, zeros, Nat.zero_mul, Nat.zero_add, digitsValue_digitChars]

/-- A number that fits is padded to exactly the width. -/
theorem length_paddedDigits {width n : ℕ} (positive : 0 < width) (fits : n < 10 ^ width) :
    (paddedDigits width n).length = width := by
  have short : (digitChars n).length ≤ width := (Nat.length_toDigits_le_iff (by decide) positive).2 fits
  rw [paddedDigits, List.length_append, List.length_replicate]
  omega

/-- The digits of a number start with a zero only if it is zero. -/
theorem head?_digitChars_ne {n : ℕ} (nonzero : 0 < n) : (digitChars n).head? ≠ some '0' := by
  induction n using Nat.strong_induction_on with
  | _ n ih =>
    rw [digitChars, Nat.toDigits_eq_if (by decide)]
    split
    case isTrue small =>
      rw [List.head?_cons]
      intro zero
      have := Nat.digitChar_eq_zero.1 (Option.some.inj zero)
      omega
    case isFalse large =>
      rw [List.head?_append_of_ne_nil _ Nat.toDigits_ne_nil]
      exact ih (n / 10) (by omega) (by omega)

/-! ### Positional texts -/

/-- The text is that of a whole part, a point and at least one more digit. -/
structure Positional (text : List Char) (whole : ℕ) (fraction : List Char) : Prop where
  form : text = digitChars whole ++ '.' :: fraction
  digits : ∀ c ∈ fraction, c.isDigit = true
  nonempty : fraction ≠ []

/-- The number that the parts of a positional text stand for. -/
def placed (whole : ℕ) (fraction : List Char) : ℚ :=
  digitsValue (digitChars whole ++ fraction) / 10 ^ fraction.length

theorem placed_eq (whole : ℕ) (fraction : List Char) :
    placed whole fraction = whole + digitsValue fraction / 10 ^ fraction.length := by
  rw [placed, digitsValue_append, digitsValue_digitChars]
  push_cast
  field_simp

theorem wholeTail_documentStyle : documentStyle.wholeTail.toList = ['.', '0'] := rfl

/-- A whole number is written with a zero as its fraction. -/
theorem positional_whole (n : ℕ) : Positional (digitChars n ++ documentStyle.wholeTail.toList) n ['0'] :=
  ⟨by rw [wholeTail_documentStyle], List.forall_mem_singleton.2 rfl, List.cons_ne_nil _ _⟩

theorem placed_whole (n : ℕ) : placed n ['0'] = n := by
  rw [placed_eq, show digitsValue ['0'] = 0 from rfl]
  simp

/-- A decimal is written as a positional text that stands for it. -/
theorem exists_positional (d : Plain) :
    ∃ whole fraction, Positional (d.text documentStyle) whole fraction ∧ placed whole fraction = d.value := by
  rw [Plain.text, Plain.value]
  split
  case isTrue large =>
    obtain ⟨k, same⟩ := Int.eq_ofNat_of_zero_le large
    refine ⟨_, _, positional_whole _, ?_⟩
    rw [placed_whole, same]
    simp
  case isFalse small =>
    obtain ⟨k, same⟩ := Int.exists_eq_neg_ofNat (show d.exponent ≤ 0 by omega)
    have positive : 0 < k := by omega
    have parts : (d.digits : ℚ) = 10 ^ k * (d.digits / 10 ^ k : ℕ) + (d.digits % 10 ^ k : ℕ) := by
      exact_mod_cast (Nat.div_add_mod d.digits (10 ^ k)).symm
    have value : (d.digits * 10 ^ d.exponent : ℚ) = (d.digits / 10 ^ k : ℕ) + (d.digits % 10 ^ k : ℕ) / 10 ^ k := by
      rw [same, zpow_neg, zpow_natCast]
      nth_rewrite 1 [parts]
      field_simp
    rw [value, same, Int.neg_neg, Int.toNat_natCast]
    dsimp only [Nat.pow_eq]
    split
    case isTrue whole =>
      refine ⟨_, _, positional_whole _, ?_⟩
      rw [placed_whole, whole]
      simp
    case isFalse fraction =>
      have length : (paddedDigits k (d.digits % 10 ^ k)).length = k :=
        length_paddedDigits positive (Nat.mod_lt _ (by positivity))
      refine ⟨_, _, ⟨rfl, fun c => isDigit_of_mem_paddedDigits, fun empty => ?_⟩, ?_⟩
      · rw [empty] at length
        exact positive.ne length
      · rw [placed_eq, digitsValue_paddedDigits, length]

/-! ### Doubles -/

variable {x : Float}

/-- The text of a magnitude is positional, and the nearest double to what it stands for is the magnitude. -/
theorem exists_positional_magnitude (finite : x.isFinite = true) (small : magnitudeBits x < infinityBits) :
    ∃ whole fraction, Positional (magnitudeChars documentStyle x) whole fraction ∧
      nearest (digitsValue (digitChars whole ++ fraction)) (-fraction.length) = ofMagnitude (magnitudeBits x) := by
  have canonical := Binary64.canonical_parts small
  rw [magnitudeChars, if_pos finite, ← Binary64.bits_parts]
  dsimp only
  split
  case isTrue zero =>
    have exponent : (Binary64.parts x).exponent = -1074 := canonical.full.resolve_left (by rw [zero]; decide)
    refine ⟨0, ['0'], positional_whole 0, ?_⟩
    rw [zero, exponent]
    rfl
  case isFalse nonzero =>
    obtain ⟨whole, fraction, positional, value⟩ := exists_positional (shortest (Binary64.parts x))
    refine ⟨whole, fraction, positional, ?_⟩
    have rounds := roundsTo_shortest (Nat.pos_of_ne_zero nonzero)
    rw [← value, placed] at rounds
    exact rounds.nearest_eq canonical (Nat.pos_of_ne_zero nonzero)

/-! ### Runs of characters -/

section

variable {p : Char → Bool} {front rest : List Char}

theorem takeWhile_append_stop (all : ∀ c ∈ front, p c = true) (stop : ∀ c ∈ rest.head?, p c = false) :
    (front ++ rest).takeWhile p = front := by
  rw [List.takeWhile_append_of_pos all]
  cases rest with
  | nil => simp
  | cons c rest => simp [stop c rfl]

theorem dropWhile_append_stop (all : ∀ c ∈ front, p c = true) (stop : ∀ c ∈ rest.head?, p c = false) :
    (front ++ rest).dropWhile p = rest := by
  rw [List.dropWhile_append_of_pos all]
  cases rest with
  | nil => rfl
  | cons c rest => simp [stop c rfl]

end

/-! ### Numerals -/

/-- A text with a minus in front of it, or as it is. -/
def signed (negative : Bool) (text : List Char) : List Char := if negative then '-' :: text else text

/-- A double that is defined is written as a sign, if it has one, and its magnitude. -/
theorem chars_eq_signed (style : Style) (defined : x.isNaN = false) :
    chars style x = signed (signBit x) (magnitudeChars style x) := by
  rw [chars, defined, signed]
  rfl

theorem splitSign_of_digit {c : Char} {rest : List Char} (digit : c.isDigit = true) :
    splitSign (c :: rest) = (false, c :: rest) := by
  rw [splitSign.eq_def]
  split
  case h_1 same =>
    cases same
    cases digit
  case h_2 same =>
    cases same
    cases digit
  case h_3 => rfl

/-- Digits have no sign of their own, whatever follows them. -/
theorem splitSign_signed (negative : Bool) (n : ℕ) (rest : List Char) :
    splitSign (signed negative (digitChars n ++ rest)) = (negative, digitChars n ++ rest) := by
  obtain ⟨c, digits, form, digit⟩ := exists_digitChars_eq_cons n
  cases negative with
  | true => rfl
  | false =>
    rw [form]
    exact splitSign_of_digit digit

theorem isDigitOrGroup_of_isDigit {c : Char} (digit : c.isDigit = true) : isDigitOrGroup c = true := by
  rw [isDigitOrGroup, digit, Bool.true_or]

theorem filter_isDigit {digits : List Char} (all : ∀ c ∈ digits, c.isDigit = true) : digits.filter Char.isDigit = digits :=
  List.filter_eq_self.2 all

namespace Numeral

/-- Digits alone are a whole number. -/
theorem split?_digitChars (n : ℕ) : split? (digitChars n) = some ⟨false, digitChars n, none, none⟩ := by
  have all : ∀ c ∈ digitChars n, isDigitOrGroup c = true := fun c h =>
    isDigitOrGroup_of_isDigit (isDigit_of_mem_digitChars h)
  have signless := splitSign_signed false n []
  rw [signed, if_neg Bool.false_ne_true, List.append_nil] at signless
  rw [split?, signless]
  dsimp only
  rw [List.takeWhile_eq_self_iff.2 all, List.dropWhile_eq_nil_iff.2 all]
  rfl

theorem integer_digitChars (n : ℕ) : (Numeral.mk false (digitChars n) none none).integer = n := by
  rw [integer, filter_isDigit fun c => isDigit_of_mem_digitChars, digitsValue_digitChars]
  rfl

end Numeral

namespace Positional

variable {text fraction : List Char} {whole : ℕ}

/-- The numeral of a positional text. -/
def numeral (negative : Bool) (whole : ℕ) (fraction : List Char) : Numeral :=
  ⟨negative, digitChars whole, some fraction, none⟩

/-- The parts of a positional text, of either sign. -/
theorem split?_eq (positional : Positional text whole fraction) (negative : Bool) :
    Numeral.split? (signed negative text) = some (numeral negative whole fraction) := by
  have wholes : ∀ c ∈ digitChars whole, isDigitOrGroup c = true := fun c h =>
    isDigitOrGroup_of_isDigit (isDigit_of_mem_digitChars h)
  have places : ∀ c ∈ fraction, isDigitOrGroup c = true := fun c h =>
    isDigitOrGroup_of_isDigit (positional.digits c h)
  have point : ∀ c ∈ ('.' :: fraction).head?, isDigitOrGroup c = false := by
    rintro c ⟨⟩
    rfl
  rw [Numeral.split?, positional.form, splitSign_signed]
  dsimp only
  rw [takeWhile_append_stop wholes point, dropWhile_append_stop wholes point]
  simp only [List.takeWhile_eq_self_iff.2 places, List.dropWhile_eq_nil_iff.2 places]
  rfl

/-- The value of a numeral is the double nearest to its digits, with the point moved back. -/
theorem value_numeral (positional : Positional text whole fraction) (negative : Bool) :
    (numeral negative whole fraction).value =
      signedNearest negative (digitsValue (digitChars whole ++ fraction)) (-fraction.length) := by
  have wholes : (digitChars whole).filter Char.isDigit = digitChars whole := filter_isDigit fun c => isDigit_of_mem_digitChars
  have places := filter_isDigit positional.digits
  simp only [Numeral.value, numeral, Numeral.fraction, Option.getD_some, Numeral.power, wholes, places, Int.zero_sub]

end Positional

/-- The text of a finite double is taken apart into a numeral whose value is the double. -/
theorem exists_positional_chars (finite : x.isFinite = true) :
    ∃ text whole fraction, chars documentStyle x = signed (signBit x) text ∧ Positional text whole fraction ∧
      (Positional.numeral (signBit x) whole fraction).value = x := by
  have defined := Binary64.isNaN_of_isFinite finite
  rcases Binary64.magnitudeBits_cases defined with ⟨-, small⟩ | ⟨infinite, -⟩
  · obtain ⟨whole, fraction, positional, read⟩ := exists_positional_magnitude finite small
    refine ⟨_, whole, fraction, chars_eq_signed documentStyle defined, positional, ?_⟩
    rw [positional.value_numeral, signedNearest, read]
    exact (Binary64.eq_ofMagnitude x).symm
  · rw [finite] at infinite
    cases infinite

/-- A double that is neither finite nor undefined is an infinity of its sign. -/
theorem eq_infinite (defined : x.isNaN = false) (large : x.isFinite = false) :
    x = if signBit x then -infinite else infinite := by
  rcases Binary64.magnitudeBits_cases defined with ⟨finite, -⟩ | ⟨-, bits⟩
  · rw [large] at finite
    cases finite
  · have := Binary64.eq_ofMagnitude x
    rwa [bits] at this

theorem beq_infinite (finite : x.isFinite = true) : (x == infinite) = false := by
  rw [Bool.eq_false_iff]
  intro same
  have large : infinite.isFinite = false := by decide +kernel
  rcases (Float.beq_iff_ne_nan_and_eq.1 same).2.2 with rfl | ⟨-, zero⟩ | ⟨-, zero⟩
  · rw [large] at finite
    cases finite
  · rw [zero] at large
    exact absurd large (by decide +kernel)
  · rw [zero] at large
    exact absurd large (by decide +kernel)

end DensityAudit.Decimal
