import DensityAudit.Proofs.Decimal.Nearest

/-!
# The shortest decimal is nearest to its double

Whichever grid the search for short digits stops at, it stops at a point of the double's interval, and if it finds none,
all digits of the double are in the interval as well. So the outcome rounds to the double (`roundsTo_shortest`).
-/

namespace DensityAudit.Decimal

open Binary64 (Parts)

/-- The number that a decimal stands for. -/
def Plain.value (d : Plain) : ℚ := d.digits * 10 ^ d.exponent

/-- A power is that of the positive part of its exponent, divided by that of the negative part. -/
theorem zpow_mul_toNat {b : ℚ} (nonzero : b ≠ 0) (k : ℤ) : b ^ k * b ^ (-k).toNat = b ^ k.toNat := by
  rw [← zpow_natCast, ← zpow_natCast, ← zpow_add₀ nonzero]
  congr 1
  omega

namespace RoundingInterval

/-- The number lies in the interval. -/
def Holds (i : RoundingInterval) (x : ℚ) : Prop := Within i.closed i.low i.high (x * i.unit)

variable {i : RoundingInterval}

theorem contains_iff {n : ℕ} : i.contains n = true ↔ i.Holds n := by
  rw [Holds, within_iff, contains]
  split
  all_goals
    rw [Bool.and_eq_true, decide_eq_true_eq, decide_eq_true_eq]
    norm_cast

/-- A whole number that is found lies in the interval. -/
theorem holds_of_nearestWhole? {n : ℕ} (found : i.nearestWhole? = some n) : i.Holds n := by
  rw [← contains_iff]
  rw [nearestWhole?] at found
  split at found
  case h_1 below above =>
    cases found
    split
    · exact below
    · exact above
  case h_2 below _ =>
    cases found
    exact below
  case h_3 _ above =>
    cases found
    exact above
  case h_4 => cases found

/-- In units of a power of ten the interval holds the numbers that are as many such powers. -/
theorem holds_inTens {k : ℤ} {x : ℚ} : (i.inTens k).Holds x ↔ i.Holds (x * 10 ^ k) := by
  have scaled : x * (i.inTens k).unit = x * 10 ^ k * i.unit * 10 ^ (-k).toNat := by
    rw [show x * 10 ^ k * i.unit * 10 ^ (-k).toNat = x * (i.unit * (10 ^ k * 10 ^ (-k).toNat)) by ring,
      zpow_mul_toNat (by norm_num)]
    simp [inTens]
  rw [Holds, scaled]
  simp only [inTens, Nat.pow_eq, Nat.cast_mul, Nat.cast_pow, Nat.cast_ofNat]
  exact within_mul (by positivity)

/-- The interval of a double holds the numbers that round to it. -/
theorem holds_ofParts {p : Parts} {x : ℚ} (nonzero : 0 < p.mantissa) : (ofParts p).Holds x ↔ RoundsTo x p := by
  have unit : (2 : ℚ) ^ (p.exponent - 2).toNat = 2 ^ p.exponent / 4 * (ofParts p).unit := by
    rw [← zpow_mul_toNat two_ne_zero, zpow_sub₀ two_ne_zero]
    norm_num [ofParts]
  have low : ((ofParts p).low : ℚ) = (p.mantissa - margin p) * (4 * 2 ^ (p.exponent - 2).toNat) := by
    have whole : ((4 * p.mantissa - if p.atBoundary then 1 else 2 : ℕ) : ℚ) = 4 * (p.mantissa - margin p) := by
      rw [Nat.cast_sub (by split <;> omega), margin]
      split <;> push_cast <;> ring
    simp only [ofParts, Nat.pow_eq, Nat.cast_mul, whole]
    push_cast
    ring
  have high : ((ofParts p).high : ℚ) = (p.mantissa + 1 / 2) * (4 * 2 ^ (p.exponent - 2).toNat) := by
    simp only [ofParts, Nat.pow_eq]
    push_cast
    ring
  have scaled : x * (ofParts p).unit = x / 2 ^ p.exponent * (4 * 2 ^ (p.exponent - 2).toNat) := by
    have := (zpow_pos_two p.exponent).ne'
    rw [unit]
    field_simp
  rw [Holds, low, high, scaled]
  exact within_mul (by positivity)

end RoundingInterval

/-! ### The search -/

/-- The exact decimal has the value of the double. -/
theorem value_exactDecimal (p : Parts) : (exactDecimal p).value = p.mantissa * 2 ^ p.exponent := by
  rw [exactDecimal]
  split
  case isTrue whole =>
    obtain ⟨k, same⟩ := Int.eq_ofNat_of_zero_le whole
    simp [Plain.value, same]
  case isFalse fraction =>
    obtain ⟨k, same⟩ := Int.exists_eq_neg_ofNat (show p.exponent ≤ 0 by omega)
    rw [Plain.value, same, Int.neg_neg, Int.toNat_natCast, zpow_neg, zpow_neg, zpow_natCast, zpow_natCast, Nat.pow_eq,
      show (10 : ℚ) = 5 * 2 by norm_num, mul_pow]
    push_cast
    field_simp

/-- Zeros at the end do not count. -/
theorem value_trimmed (d : Plain) : d.trimmed.value = d.value := by
  rw [Plain.trimmed]
  split
  case isTrue zero =>
    have digits : (d.digits : ℚ) = (d.digits / 10 : ℕ) * 10 := by
      exact_mod_cast (Nat.div_mul_cancel (Nat.dvd_of_mod_eq_zero zero)).symm
    rw [Plain.value, Plain.value, digits, zpow_add_one₀ (by norm_num)]
    ring
  case isFalse => rfl

/-- Every point that the search can stop at is in the interval. -/
theorem holds_firstGridPoint {i : RoundingInterval} {exact : Plain} (h : i.Holds exact.value) (tries : ℕ) (k : ℤ) :
    i.Holds (firstGridPoint i exact tries k).value := by
  induction tries generalizing k with
  | zero => exact h
  | succ tries ih =>
    rw [firstGridPoint]
    split
    case h_1 digits found => exact RoundingInterval.holds_inTens.1 (RoundingInterval.holds_of_nearestWhole? found)
    case h_2 => exact ih (k - 1)

/-- A double is nearest to itself. -/
theorem roundsTo_self (p : Parts) : RoundsTo (p.mantissa * 2 ^ p.exponent) p := by
  rw [RoundsTo, mul_div_cancel_right₀ _ (zpow_pos_two _).ne']
  refine ⟨?_, ?_, fun _ => ⟨?_, ?_⟩⟩ <;> linarith [margin_pos p]

/-- The shortest decimal rounds to the double that it is written for. -/
theorem roundsTo_shortest {p : Parts} (nonzero : 0 < p.mantissa) : RoundsTo (shortest p).value p := by
  rw [shortest, value_trimmed, ← RoundingInterval.holds_ofParts nonzero]
  apply holds_firstGridPoint
  rw [RoundingInterval.holds_ofParts nonzero, value_exactDecimal]
  exact roundsTo_self p

end DensityAudit.Decimal
