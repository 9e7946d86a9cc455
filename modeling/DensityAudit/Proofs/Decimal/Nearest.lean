import DensityAudit.Decimal.Shortest
import DensityAudit.Proofs.Doubles.Bits

/-!
# What rounds to a double

A positive double with mantissa `m` and exponent `e` is the nearest one to all numbers of an interval around it, which
goes half of the last bit up and half of it down, or a quarter down where the doubles below are nearer to each other.
`RoundsTo` is this interval. Every fraction in it is rounded to the double (`nearestBits_eq`), and so is every decimal
in it (`nearest_eq`), whichever way the power of ten is put.
-/

namespace DensityAudit.Decimal

open Binary64 (Canonical Parts ofMagnitude)

/-! ### Orders of magnitude -/

theorem zpow_pos_two (e : ℤ) : (0 : ℚ) < 2 ^ e := zpow_pos two_pos e

/-- The order of a fraction is the exponent of the largest power of two that it reaches. -/
theorem binaryOrder_spec {num den : ℕ} (positive : 0 < num) (positive' : 0 < den) :
    (2 : ℚ) ^ binaryOrder num den ≤ num / den ∧ (num / den : ℚ) < 2 ^ (binaryOrder num den + 1) := by
  have scale : (0 : ℚ) < den := Nat.cast_pos.2 positive'
  have size : (0 : ℚ) < num := Nat.cast_pos.2 positive
  rw [binaryOrder]
  split
  case isTrue whole =>
    -- at least one: the order of the whole part
    have nonzero : num / den ≠ 0 := (Nat.div_pos whole positive').ne'
    have low : 2 ^ (num / den).log2 * den ≤ num :=
      (Nat.mul_le_mul_right den (Nat.log2_self_le nonzero)).trans (Nat.div_mul_le_self num den)
    have high : num < 2 ^ ((num / den).log2 + 1) * den :=
      (Nat.div_lt_iff_lt_mul positive').1 Nat.lt_log2_self
    rw [le_div_iff₀ scale, div_lt_iff₀ scale]
    exact ⟨by exact_mod_cast low, by exact_mod_cast high⟩
  case isFalse small =>
    -- below one: the order of the inverse, rounded up
    have nonzero : (den - 1) / num ≠ 0 := (Nat.div_pos (by omega) positive).ne'
    have low : 2 ^ ((den - 1) / num).log2 * num ≤ den - 1 :=
      (Nat.mul_le_mul_right num (Nat.log2_self_le nonzero)).trans (Nat.div_mul_le_self (den - 1) num)
    have high : den - 1 < 2 ^ (((den - 1) / num).log2 + 1) * num := (Nat.div_lt_iff_lt_mul positive).1 Nat.lt_log2_self
    generalize ((den - 1) / num).log2 = k at low high
    have below : (2 : ℚ) ^ k * num < den := by exact_mod_cast (show 2 ^ k * num < den by omega)
    have above : (den : ℚ) ≤ 2 ^ (k + 1) * num := by exact_mod_cast (show den ≤ 2 ^ (k + 1) * num by omega)
    constructor
    · rw [zpow_neg, zpow_natCast, le_div_iff₀ scale, inv_mul_le_iff₀ (by positivity)]
      exact above
    · rw [show -((k + 1 : ℕ) : ℤ) + 1 = -(k : ℤ) by push_cast; ring, zpow_neg, zpow_natCast, div_lt_iff₀ scale,
        lt_inv_mul_iff₀ (by positivity)]
      exact below

/-- A power of two bounds the order, in whatever units the fraction is measured. -/
theorem binaryOrder_lt {num den : ℕ} (positive : 0 < num) (positive' : 0 < den) {e : ℤ} {k : ℕ}
    (high : (num / den / 2 ^ e : ℚ) < 2 ^ k) : binaryOrder num den < e + k := by
  rw [div_lt_iff₀ (zpow_pos_two e), ← zpow_natCast, ← zpow_add₀ two_ne_zero, add_comm] at high
  exact (zpow_lt_zpow_iff_right₀ one_lt_two).1 ((binaryOrder_spec positive positive').1.trans_lt high)

/-- The order is `e + k` if the fraction, in units of `2 ^ e`, lies from the power `k` of two up to the next. -/
theorem binaryOrder_eq {num den : ℕ} (positive : 0 < num) (positive' : 0 < den) {e : ℤ} {k : ℕ}
    (low : (2 : ℚ) ^ k ≤ num / den / 2 ^ e) (high : (num / den / 2 ^ e : ℚ) < 2 ^ (k + 1)) :
    binaryOrder num den = e + k := by
  have below := binaryOrder_lt positive positive' high
  rw [le_div_iff₀ (zpow_pos_two e), ← zpow_natCast, ← zpow_add₀ two_ne_zero] at low
  have above : (k + e : ℤ) < binaryOrder num den + 1 :=
    (zpow_lt_zpow_iff_right₀ one_lt_two).1 (low.trans_lt (binaryOrder_spec positive positive').2)
  push_cast at below
  omega

/-! ### Rounding -/

/-- The number lies between two bounds, and on one of them only if the ends belong to the interval. -/
structure Within (closed : Bool) (a b x : ℚ) : Prop where
  low : a ≤ x
  high : x ≤ b
  strict : closed = false → a < x ∧ x < b

theorem within_iff {closed : Bool} {a b x : ℚ} :
    Within closed a b x ↔ if closed then a ≤ x ∧ x ≤ b else a < x ∧ x < b := by
  cases closed with
  | true => exact ⟨fun h => ⟨h.low, h.high⟩, fun h => ⟨h.1, h.2, nofun⟩⟩
  | false => exact ⟨fun h => h.strict rfl, fun h => ⟨h.1.le, h.2.le, fun _ => h⟩⟩

/-- It does not matter in which units the number and the bounds are measured. -/
theorem within_mul {closed : Bool} {a b x c : ℚ} (positive : 0 < c) :
    Within closed (a * c) (b * c) (x * c) ↔ Within closed a b x := by
  simp only [within_iff, mul_le_mul_iff_left₀ positive, mul_lt_mul_iff_left₀ positive]

/-- The number is rounded to the whole number: it is at most a half away, and a half only if that number is even. -/
def Rounds (x : ℚ) (n : ℕ) : Prop := Within (n % 2 == 0) (n - 1 / 2) (n + 1 / 2) x

theorem roundHalfEven_eq {num den n : ℕ} (positive : 0 < den) (rounds : Rounds (num / den) n) :
    roundHalfEven num den = n := by
  have scale : (0 : ℚ) < den := Nat.cast_pos.2 positive
  have low : 2 * n * den ≤ 2 * num + den := by
    have := (le_div_iff₀ scale).1 rounds.low
    exact_mod_cast (show (2 * n * den : ℚ) ≤ 2 * num + den by linarith)
  have high : 2 * num ≤ 2 * n * den + den := by
    have := (div_le_iff₀ scale).1 rounds.high
    exact_mod_cast (show (2 * num : ℚ) ≤ 2 * n * den + den by linarith)
  have strict : n % 2 ≠ 0 → 2 * n * den < 2 * num + den ∧ 2 * num < 2 * n * den + den := fun odd => by
    have inner := rounds.strict (beq_eq_false_iff_ne.2 odd)
    have below := (lt_div_iff₀ scale).1 inner.1
    have above := (div_lt_iff₀ scale).1 inner.2
    constructor
    · exact_mod_cast (show (2 * n * den : ℚ) < 2 * num + den by linarith)
    · exact_mod_cast (show (2 * num : ℚ) < 2 * n * den + den by linarith)
  have parts := Nat.div_add_mod num den
  have small := Nat.mod_lt num positive
  rw [roundHalfEven]
  generalize num / den = q at *
  generalize num % den = r at *
  have above : q ≤ n := by
    by_contra less
    have := Nat.mul_le_mul_right den (show n + 1 ≤ q by omega)
    linarith
  have below : n ≤ q + 1 := by
    by_contra more
    have := Nat.mul_le_mul_right den (show q + 2 ≤ n by omega)
    linarith
  rcases (show n = q ∨ n = q + 1 by omega) with rfl | rfl
  · have same : 2 * n * den = 2 * (den * n) := by ring
    split_ifs <;> omega
  · have next : 2 * (q + 1) * den = 2 * (den * q) + 2 * den := by ring
    split_ifs <;> omega

/-- The mantissa is the fraction in units of its last bit, rounded. -/
theorem nearestBits_of_exponent {num den n : ℕ} {e : ℤ} (positive : 0 < num) (positive' : 0 < den)
    (exponent : max (binaryOrder num den - 52) (-1074) = e) (rounds : Rounds (num / den / 2 ^ e) n) :
    nearestBits num den = min ((e + 1074).toNat * Binary64.fractionSpan + n) infinityBits := by
  have mantissa : (if 0 ≤ e then roundHalfEven num (den * Nat.pow 2 e.toNat)
      else roundHalfEven (num * Nat.pow 2 (-e).toNat) den) = n := by
    split
    case isTrue whole =>
      obtain ⟨k, rfl⟩ := Int.eq_ofNat_of_zero_le whole
      refine roundHalfEven_eq (Nat.mul_pos positive' (Nat.two_pow_pos _)) ?_
      rw [Int.toNat_natCast, Nat.pow_eq]
      rw [zpow_natCast, div_div] at rounds
      exact_mod_cast rounds
    case isFalse fraction =>
      obtain ⟨k, rfl⟩ := Int.exists_eq_neg_ofNat (show e ≤ 0 by omega)
      refine roundHalfEven_eq positive' ?_
      rw [Int.neg_neg, Int.toNat_natCast, Nat.pow_eq]
      rw [zpow_neg, zpow_natCast, div_inv_eq_mul, div_mul_eq_mul_div] at rounds
      exact_mod_cast rounds
  rw [nearestBits, if_neg positive.ne']
  simp only [exponent, mantissa]

/-! ### The numbers around a double -/

/-- How far below a double the numbers that round to it go, in units of its last bit. -/
def margin (p : Parts) : ℚ := if p.atBoundary then 1 / 4 else 1 / 2

/-- The number is nearest to the double with the given parts; one that is half-way to the next double only if the
mantissa is even. -/
def RoundsTo (x : ℚ) (p : Parts) : Prop :=
  Within (p.mantissa % 2 == 0) (p.mantissa - margin p) (p.mantissa + 1 / 2) (x / 2 ^ p.exponent)

/-- A double of the smallest mantissa is even, and the doubles below it are half as far apart. -/
theorem atBoundary_iff {p : Parts} : p.atBoundary = true ↔ p.mantissa = Binary64.fractionSpan ∧ -1074 < p.exponent := by
  rw [Parts.atBoundary, Bool.and_eq_true, beq_iff_eq, decide_eq_true_eq]

theorem margin_le (p : Parts) : margin p ≤ 1 / 2 := by
  rw [margin]
  split <;> norm_num

theorem margin_pos (p : Parts) : 0 < margin p := by
  rw [margin]
  split <;> norm_num

namespace RoundsTo

variable {p : Parts} {x : ℚ}

/-- The mantissa is the number in units of its last bit, rounded. -/
theorem rounds (h : RoundsTo x p) : Rounds (x / 2 ^ p.exponent) p.mantissa where
  low := by linarith [h.low, margin_le p]
  high := h.high
  strict odd := ⟨by linarith [(h.strict odd).1, margin_le p], (h.strict odd).2⟩

theorem pos (h : RoundsTo x p) (nonzero : 0 < p.mantissa) : 0 < x := by
  have mantissa : (1 : ℚ) ≤ p.mantissa := Nat.one_le_cast.2 nonzero
  have scaled : 0 < x / 2 ^ p.exponent := by linarith [h.low, margin_le p]
  exact (div_pos_iff_of_pos_right (zpow_pos_two _)).1 scaled

/-- A number that is smaller than the double's own order of magnitude is next to a power of two. -/
theorem below_order (h : RoundsTo x p) (canonical : Canonical p.mantissa p.exponent) (normal : -1074 < p.exponent)
    (small : x / 2 ^ p.exponent < 2 ^ 52) :
    p.mantissa = Binary64.fractionSpan ∧ 2 ^ 52 - 1 / 4 ≤ x / 2 ^ p.exponent := by
  have least : 2 ^ 52 ≤ p.mantissa := canonical.full.resolve_right (by omega)
  have most : p.mantissa < 2 ^ 52 + 1 := by
    have := h.rounds.low
    exact_mod_cast (show (p.mantissa : ℚ) < 2 ^ 52 + 1 by linarith)
  have mantissa : p.mantissa = Binary64.fractionSpan := by
    rw [Binary64.fractionSpan]
    omega
  refine ⟨mantissa, ?_⟩
  have low := h.low
  rw [margin, if_pos (atBoundary_iff.2 ⟨mantissa, normal⟩), mantissa, Binary64.fractionSpan] at low
  norm_num at low ⊢
  exact low

/-- A fraction that is nearest to a double is rounded to it. -/
theorem nearestBits_eq {num den : ℕ} (h : RoundsTo (num / den) p) (canonical : Canonical p.mantissa p.exponent)
    (nonzero : 0 < p.mantissa) (positive : 0 < den) :
    nearestBits num den = (p.exponent + 1074).toNat * Binary64.fractionSpan + p.mantissa := by
  have finite : (p.exponent + 1074).toNat * Binary64.fractionSpan + p.mantissa < infinityBits := by
    have := canonical.short
    have := canonical.greatest
    rw [infinityBits, Binary64.fractionSpan]
    omega
  have num_pos : 0 < num := by
    have := (div_pos_iff_of_pos_right (Nat.cast_pos.2 positive)).1 (h.pos nonzero)
    exact Nat.cast_pos.1 this
  have short : (p.mantissa : ℚ) + 1 ≤ 2 ^ 53 := by exact_mod_cast canonical.short
  have high : (num / den / 2 ^ p.exponent : ℚ) < 2 ^ (52 + 1) := by
    norm_num at short ⊢
    linarith [h.high]
  have least := canonical.least
  by_cases order : (2 : ℚ) ^ 52 ≤ num / den / 2 ^ p.exponent
  · have exponent : max (binaryOrder num den - 52) (-1074) = p.exponent := by
      rw [binaryOrder_eq num_pos positive order high]
      omega
    rw [nearestBits_of_exponent num_pos positive exponent h.rounds, min_eq_left finite.le]
  · rw [not_le] at order
    rcases canonical.least.eq_or_lt with subnormal | normal
    · -- with the least exponent the mantissa may be short
      have exponent : max (binaryOrder num den - 52) (-1074) = p.exponent := by
        have := binaryOrder_lt num_pos positive order
        omega
      rw [nearestBits_of_exponent num_pos positive exponent h.rounds, min_eq_left finite.le]
    · -- next to a power of two the mantissa is rounded up to it, in units that are half as large
      obtain ⟨mantissa, low⟩ := h.below_order canonical normal order
      have exponent : max (binaryOrder num den - 52) (-1074) = p.exponent - 1 := by
        rw [binaryOrder_eq (k := 51) num_pos positive (by linarith) order]
        omega
      have half : (num / den : ℚ) / 2 ^ (p.exponent - 1) = 2 * (num / den / 2 ^ p.exponent) := by
        rw [zpow_sub_one₀ two_ne_zero]
        field_simp
      have rounds : Rounds (num / den / 2 ^ (p.exponent - 1)) (2 ^ 53) := by
        rw [half]
        refine ⟨?_, ?_, fun odd => absurd odd (by decide)⟩ <;> push_cast <;> linarith
      have same : (p.exponent - 1 + 1074).toNat * Binary64.fractionSpan + 2 ^ 53 =
          (p.exponent + 1074).toNat * Binary64.fractionSpan + p.mantissa := by
        rw [mantissa, Binary64.fractionSpan]
        omega
      rw [nearestBits_of_exponent num_pos positive exponent rounds, same, min_eq_left finite.le]

/-- A number that is nearest to a positive double is at least half of the least one. -/
theorem half_least_le (h : RoundsTo x p) (canonical : Canonical p.mantissa p.exponent) (nonzero : 0 < p.mantissa) :
    2 ^ (-1075 : ℤ) ≤ x := by
  have scale := zpow_pos_two p.exponent
  have mantissa : (1 : ℚ) ≤ p.mantissa := Nat.one_le_cast.2 nonzero
  have scaled : (1 / 2 : ℚ) ≤ x / 2 ^ p.exponent := by linarith [h.low, margin_le p]
  have halved : (2 : ℚ) ^ (-1075 : ℤ) = 1 / 2 * 2 ^ (-1074 : ℤ) := by
    rw [one_div, ← zpow_neg_one, ← zpow_add₀ two_ne_zero]
    rfl
  have least : (2 : ℚ) ^ (-1074 : ℤ) ≤ 2 ^ p.exponent := zpow_le_zpow_right₀ one_le_two canonical.least
  calc (2 : ℚ) ^ (-1075 : ℤ) = 1 / 2 * 2 ^ (-1074 : ℤ) := halved
    _ ≤ 1 / 2 * 2 ^ p.exponent := by linarith
    _ ≤ x := (le_div_iff₀ scale).1 scaled

/-- A decimal with so many places that it is plainly zero would be smaller than that. -/
theorem places_le {digits places : ℕ} (h : RoundsTo (digits / 10 ^ places) p)
    (canonical : Canonical p.mantissa p.exponent) (nonzero : 0 < p.mantissa) : places ≤ digits.log2 + 400 := by
  by_contra more
  have least := h.half_least_le canonical nonzero
  have short : (digits : ℚ) < 2 ^ (digits.log2 + 1) := by exact_mod_cast Nat.lt_log2_self
  have tens : (2 : ℚ) ^ (3 * places) ≤ 10 ^ places := by
    rw [pow_mul]
    exact pow_le_pow_left₀ (by norm_num) (by norm_num) places
  rw [zpow_neg, le_div_iff₀ (by positivity), inv_mul_le_iff₀ (by positivity)] at least
  have digits_lt : (2 : ℚ) ^ (3 * places) < 2 ^ (1075 + (digits.log2 + 1)) := by
    rw [pow_add]
    have : (0 : ℚ) < 2 ^ 1075 := by positivity
    have := mul_lt_mul_of_pos_left short this
    exact tens.trans_lt (least.trans_lt this)
  have := (pow_lt_pow_iff_right₀ (one_lt_two (α := ℚ))).1 digits_lt
  omega

/-- A decimal that is nearest to a double is read as it. -/
theorem nearest_eq {digits places : ℕ} (h : RoundsTo (digits / 10 ^ places) p)
    (canonical : Canonical p.mantissa p.exponent) (nonzero : 0 < p.mantissa) :
    nearest digits (-places) = ofMagnitude ((p.exponent + 1074).toNat * Binary64.fractionSpan + p.mantissa) := by
  have positive : digits ≠ 0 := by
    rintro rfl
    have := h.pos nonzero
    simp at this
  have few := h.places_le canonical nonzero
  rw [nearest, if_neg positive, if_neg (by omega), if_neg (by omega)]
  split
  case isTrue whole =>
    obtain rfl : places = 0 := by omega
    have ratio : RoundsTo ((digits * Nat.pow 10 (-(0 : ℕ) : ℤ).toNat : ℕ) / (1 : ℕ)) p := by simpa using h
    exact congrArg ofMagnitude (ratio.nearestBits_eq canonical nonzero Nat.one_pos)
  case isFalse fraction =>
    have ratio : RoundsTo (digits / (10 ^ places : ℕ)) p := by exact_mod_cast h
    rw [Int.neg_neg, Int.toNat_natCast]
    exact congrArg ofMagnitude (ratio.nearestBits_eq canonical nonzero (Nat.pow_pos (by decide)))

end RoundsTo

end DensityAudit.Decimal
