import DensityAudit.Proofs.Doubles.Defined

/-!
# Differences and squares of doubles

A difference that is itself a double is not rounded (`units_sub_of_exact`). A square is rounded, and doubles of
different magnitudes keep different squares only if the squares are neither too small nor too large: from two to the
power of minus 511 on the gap between neighbouring doubles is wide enough for that (`mul_self_lt_mul_self`), while from
two to the power of 512 on all squares are infinite (`le_mul_self_of_large`), and up to two to the power of minus 538
all squares are zero (`mul_self_le_of_small`).
-/

namespace DensityAudit.Binary64

open Float.Model (Format UnpackedFloat)
open Float.Model.UnpackedFloat

variable {x y : Float}

/-! ### Differences -/

/-- The units of a defined difference are the difference of the units, rounded. -/
theorem units_sub (defined : (x - y).isNaN = false) : units (x - y) = roundedUnits 0 (units x - units y) := by
  rw [sub_eq_add_neg] at defined ⊢
  rw [units_add defined, units_neg, Int.sub_eq_add_neg]

/-- A difference of finite doubles that is a finite double is found as such. -/
theorem units_sub_of_exact {d : Float} (finite : x.isFinite = true) (finite' : y.isFinite = true)
    (finite_d : d.isFinite = true) (exact : units d = units x - units y) :
    (x - y).isFinite = true ∧ units (x - y) = units d := by
  have defined := isNaN_sub_of_isFinite finite finite'
  have same : units (x - y) = units d := by rw [units_sub defined, ← exact, roundedUnits_units]
  refine ⟨?_, same⟩
  rw [isFinite_iff_units defined, same]
  exact (isFinite_iff_units (isNaN_of_isFinite finite_d)).1 finite_d

/-! ### The error of rounding -/

/-- A quotient is off by at most half a divisor. -/
theorem two_mul_halfEven_le (u n : ℕ) : 2 * (halfEven u n * 2 ^ n) ≤ 2 * u + 2 ^ n := by
  have whole : u / 2 ^ n * 2 ^ n + u % 2 ^ n = u := Nat.div_add_mod' u (2 ^ n)
  have next : (u / 2 ^ n + 1) * 2 ^ n = u / 2 ^ n * 2 ^ n + 2 ^ n := by ring
  unfold halfEven
  split_ifs with below half
  · omega
  · have carried : (u / 2 ^ n + u / 2 ^ n % 2) * 2 ^ n ≤ (u / 2 ^ n + 1) * 2 ^ n := Nat.mul_le_mul_right _ (by omega)
    omega
  · omega

theorem le_two_mul_halfEven (u n : ℕ) : 2 * u ≤ 2 * (halfEven u n * 2 ^ n) + 2 ^ n := by
  have whole : u / 2 ^ n * 2 ^ n + u % 2 ^ n = u := Nat.div_add_mod' u (2 ^ n)
  have next : (u / 2 ^ n + 1) * 2 ^ n = u / 2 ^ n * 2 ^ n + 2 ^ n := by ring
  have remainder : u % 2 ^ n < 2 ^ n := Nat.mod_lt _ (Nat.two_pow_pos n)
  unfold halfEven
  split_ifs with below half
  · omega
  · have carried : u / 2 ^ n * 2 ^ n ≤ (u / 2 ^ n + u / 2 ^ n % 2) * 2 ^ n := Nat.mul_le_mul_right _ (by omega)
    omega
  · omega

variable {least u v : ℕ}

/-- A rounded number at its own scale. -/
theorem rounded_mul_pow (least u : ℕ) :
    rounded least u * 2 ^ least = halfEven u (dropped least u) * 2 ^ dropped least u := by
  rw [rounded, Nat.mul_assoc, ← pow_add, Nat.sub_add_cancel (least_le_dropped least u)]

/-- Numbers that are farther apart than the errors of both are not rounded to one. -/
theorem rounded_lt_of_gap (gap : 2 * u + 2 ^ dropped least u + 2 ^ dropped least v < 2 * v) :
    rounded least u < rounded least v := by
  have above := two_mul_halfEven_le u (dropped least u)
  have below := le_two_mul_halfEven v (dropped least v)
  rw [← rounded_mul_pow] at above below
  exact Nat.lt_of_mul_lt_mul_right (a := 2 ^ least) (by omega)

/-- A number that is not rounded is told from those that are farther from it than their own error. -/
theorem rounded_lt_of_exact {q : ℕ} (exact : v = q * 2 ^ dropped least v) (gap : 2 * u + 2 ^ dropped least u < 2 * v) :
    rounded least u < rounded least v := by
  have above := two_mul_halfEven_le u (dropped least u)
  have same : rounded least v * 2 ^ least = v := by
    rw [rounded_mul_pow]
    generalize dropped least v = n at exact
    rw [exact, halfEven_of_multiple]
  rw [← rounded_mul_pow] at above
  exact Nat.lt_of_mul_lt_mul_right (a := 2 ^ least) (by omega)

/-- A power of two with enough zeros behind it is not rounded. -/
theorem rounded_pow (least k : ℕ) : rounded least (2 ^ (k + 52 + least)) = 2 ^ (k + 52) := by
  have drop : dropped least (2 ^ (k + 52 + least)) = k + least := by
    rw [dropped, Nat.log2_two_pow]
    omega
  have split : 2 ^ (k + 52 + least) = 2 ^ 52 * 2 ^ (k + least) := by ring
  rw [rounded, drop, split, halfEven_of_multiple, Nat.add_sub_cancel, ← pow_add, Nat.add_comm]

/-- What is less than half of the last place is rounded to zero. -/
theorem rounded_eq_zero (small : 2 * u < 2 ^ least) : rounded least u = 0 := by
  have drop : dropped least u = least := by
    have below : u < 2 ^ least := by omega
    have log : u.log2 ≤ least := by
      rcases Nat.eq_zero_or_pos u with rfl | positive
      · exact Nat.zero_le _
      · exact Nat.le_of_lt ((Nat.log2_lt positive.ne').2 below)
    rw [dropped]
    omega
  have rest : u % 2 ^ least = u := Nat.mod_eq_of_lt (by omega)
  rw [rounded, drop, halfEven, rest, if_pos small, Nat.div_eq_of_lt (by omega), Nat.zero_mul]

/-! ### Squares of whole numbers -/

theorem two_mul_sq_lt_pow {n a b : ℕ} (small : n ≤ 2 ^ a) (h : a + a + 1 < b) : 2 * (n * n) < 2 ^ b :=
  calc 2 * (n * n) ≤ 2 * (2 ^ a * 2 ^ a) := Nat.mul_le_mul_left 2 (Nat.mul_le_mul small small)
    _ = 2 ^ (a + a + 1) := by ring
    _ < 2 ^ b := Nat.pow_lt_pow_right Nat.one_lt_two h

theorem pow_le_sq {n a : ℕ} (large : 2 ^ a ≤ n) : 2 ^ (a + a) ≤ n * n := by
  rw [pow_add]
  exact Nat.mul_le_mul large large

theorem mul_pow_lt_pow {n k l : ℕ} (short : n < 2 ^ 53) (low : k ≤ l) : n * 2 ^ k < 2 ^ (53 + l) :=
  calc n * 2 ^ k < 2 ^ 53 * 2 ^ k := Nat.mul_lt_mul_of_pos_right short (Nat.two_pow_pos k)
    _ = 2 ^ (53 + k) := (pow_add 2 53 k).symm
    _ ≤ 2 ^ (53 + l) := Nat.pow_le_pow_right Nat.zero_lt_two (by omega)

/-- The units of the square of a double with `n` units, whatever its sign. -/
def squareUnits (n : ℕ) : ℕ := saturated (rounded 1074 (n * n))

theorem squareUnits_mono {m n : ℕ} (h : m ≤ n) : squareUnits m ≤ squareUnits n :=
  saturated_mono (rounded_mono 1074 (Nat.mul_le_mul h h))

/-- Up to two to the power of minus 538 squares are zero. -/
theorem squareUnits_of_small {n : ℕ} (small : n ≤ 2 ^ 536) : squareUnits n = 0 := by
  rw [squareUnits, rounded_eq_zero (two_mul_sq_lt_pow small (by decide)), saturated, if_pos limit_pos]

/-- The square of two to the power of 512 is the limit. -/
theorem rounded_sq_limit : rounded 1074 (2 ^ (52 + 1534 + (52 + 1534))) = limit := by
  have exponents : 52 + 1534 + (52 + 1534) = 2046 + 52 + 1074 := by decide
  have top : 2046 + 52 = limitExponent := by decide
  rw [exponents, rounded_pow, top, limit]

/-- From two to the power of 512 on squares are infinite. -/
theorem squareUnits_of_large {n : ℕ} (large : 2 ^ (52 + 1534) ≤ n) : squareUnits n = 2 * limit := by
  have beyond : limit ≤ rounded 1074 (n * n) := by
    rw [← rounded_sq_limit]
    exact rounded_mono 1074 (pow_le_sq large)
  rw [squareUnits, saturated, if_neg (Nat.not_lt.2 beyond)]

/-! ### Squares that differ -/

section

variable {m n j k : ℕ}

/-- The numbers of bits that are dropped from the square of `n * 2 ^ k`. -/
theorem dropped_sq_le (short : n < 2 ^ 53) (h : 511 ≤ k) : dropped 1074 (n * 2 ^ k * (n * 2 ^ k)) ≤ 53 + (k + k) := by
  have below : n * 2 ^ k * (n * 2 ^ k) < 2 ^ (106 + (k + k)) := by
    have power : 2 ^ (106 + (k + k)) = 2 ^ 53 * 2 ^ k * (2 ^ 53 * 2 ^ k) := by ring
    have less : n * 2 ^ k < 2 ^ 53 * 2 ^ k := Nat.mul_lt_mul_of_pos_right short (Nat.two_pow_pos k)
    rw [power]
    exact Nat.mul_lt_mul'' less less
  have log : (n * 2 ^ k * (n * 2 ^ k)).log2 < 106 + (k + k) := by
    rcases Nat.eq_zero_or_pos (n * 2 ^ k * (n * 2 ^ k)) with zero | positive
    · rw [zero, Nat.log2_zero]
      omega
    · exact (Nat.log2_lt positive.ne').2 below
  rw [dropped]
  omega

/-- Below a number whose mantissa is not the least one lies a gap of one last place. -/
theorem rounded_sq_lt_of_gap (short : n + 1 < 2 ^ 53) (full : 2 ^ 52 ≤ n) (h : 511 ≤ k) {e : ℕ} (less : e ≤ n * 2 ^ k) :
    rounded 1074 (e * e) < rounded 1074 ((n + 1) * 2 ^ k * ((n + 1) * 2 ^ k)) := by
  have square : e * e ≤ n * n * 2 ^ (k + k) := by
    calc e * e ≤ n * 2 ^ k * (n * 2 ^ k) := Nat.mul_le_mul less less
      _ = n * n * 2 ^ (k + k) := by ring
  have square' : (n + 1) * 2 ^ k * ((n + 1) * 2 ^ k) = n * n * 2 ^ (k + k) + (2 * n + 1) * 2 ^ (k + k) := by ring
  have wide : 2 ^ 53 * 2 ^ (k + k) < (2 * n + 1) * 2 ^ (k + k) :=
    Nat.mul_lt_mul_of_pos_right (by omega) (Nat.two_pow_pos _)
  have drop' := dropped_sq_le short h
  have drop := (dropped_mono 1074 (show e * e ≤ (n + 1) * 2 ^ k * ((n + 1) * 2 ^ k) by omega)).trans drop'
  have error : 2 ^ dropped 1074 (e * e) ≤ 2 ^ 53 * 2 ^ (k + k) := by
    rw [← pow_add]
    exact Nat.pow_le_pow_right Nat.zero_lt_two drop
  have error' : 2 ^ dropped 1074 ((n + 1) * 2 ^ k * ((n + 1) * 2 ^ k)) ≤ 2 ^ 53 * 2 ^ (k + k) := by
    rw [← pow_add]
    exact Nat.pow_le_pow_right Nat.zero_lt_two drop'
  apply rounded_lt_of_gap
  omega

/-- Below a power of two lies a gap of half a last place, but its square is not rounded. -/
theorem rounded_sq_lt_of_pow (h : 511 ≤ k) {e : ℕ} (less : 2 * e + 2 ^ k ≤ 2 ^ 53 * 2 ^ k) :
    rounded 1074 (e * e) < rounded 1074 (2 ^ 52 * 2 ^ k * (2 ^ 52 * 2 ^ k)) := by
  have square' : 2 ^ 52 * 2 ^ k * (2 ^ 52 * 2 ^ k) = 2 ^ 52 * 2 ^ (52 + (k + k)) := by ring
  have drop' : dropped 1074 (2 ^ 52 * 2 ^ k * (2 ^ 52 * 2 ^ k)) = 52 + (k + k) := by
    rw [square', ← pow_add, dropped, Nat.log2_two_pow]
    omega
  have below : 2 * e ≤ (2 ^ 53 - 1) * 2 ^ k := by
    rw [Nat.sub_mul, Nat.one_mul]
    omega
  have square : 4 * (e * e) ≤ (2 ^ 53 - 1) * (2 ^ 53 - 1) * 2 ^ (k + k) := by
    calc 4 * (e * e) = 2 * e * (2 * e) := by ring
      _ ≤ (2 ^ 53 - 1) * 2 ^ k * ((2 ^ 53 - 1) * 2 ^ k) := Nat.mul_le_mul below below
      _ = (2 ^ 53 - 1) * (2 ^ 53 - 1) * 2 ^ (k + k) := by ring
  have scale : 2 ^ 52 * 2 ^ (52 + (k + k)) = 2 ^ 104 * 2 ^ (k + k) := by ring
  have positive : 0 < 2 ^ (k + k) := Nat.two_pow_pos _
  have drop := dropped_mono 1074 (show e * e ≤ 2 ^ 52 * 2 ^ k * (2 ^ 52 * 2 ^ k) by omega)
  have error : 2 ^ dropped 1074 (e * e) ≤ 2 ^ 52 * 2 ^ (k + k) := by
    rw [← pow_add]
    exact Nat.pow_le_pow_right Nat.zero_lt_two (drop.trans_eq drop')
  apply rounded_lt_of_exact (q := 2 ^ 52)
  · rw [drop', square']
  · omega

end

/-- Magnitudes of doubles keep their order when they are squared, if the squares are not too small. -/
theorem rounded_sq_lt {m n : ℕ} {e d : ℤ} (c : Canonical m e) (c' : Canonical n d)
    (less : m * 2 ^ (e + 1074).toNat < n * 2 ^ (d + 1074).toNat) (large : 2 ^ (53 + 510) ≤ n * 2 ^ (d + 1074).toNat) :
    rounded 1074 (m * 2 ^ (e + 1074).toNat * (m * 2 ^ (e + 1074).toNat)) <
      rounded 1074 (n * 2 ^ (d + 1074).toNat * (n * 2 ^ (d + 1074).toNat)) := by
  have scale : (e + 1074).toNat ≤ (d + 1074).toNat := by
    by_contra reversed
    have least := c'.least
    exact absurd (c'.lt_of_exponent_lt c (by omega)) (by omega)
  have short := c.short
  have short' := c'.short
  have full : 2 ^ 52 ≤ m ∨ (e + 1074).toNat = 0 := c.full.imp_right fun least => by omega
  have full' : 2 ^ 52 ≤ n ∨ (d + 1074).toNat = 0 := c'.full.imp_right fun least => by omega
  generalize (e + 1074).toNat = j at less scale full ⊢
  generalize (d + 1074).toNat = k at less large scale full' ⊢
  have high : 511 ≤ k := by
    by_contra low
    exact Nat.lt_irrefl _ (large.trans_lt (mul_pow_lt_pow short' (show k ≤ 510 by omega)))
  replace full' : 2 ^ 52 ≤ n := full'.resolve_right (by omega)
  rcases scale.lt_or_eq with lower | rfl
  · -- the smaller number has a smaller exponent, so it is less than any number of the larger exponent
    obtain ⟨i, rfl⟩ : ∃ i, k = i + 1 := ⟨k - 1, by omega⟩
    have small : m * 2 ^ j ≤ (2 ^ 53 - 1) * 2 ^ i :=
      Nat.mul_le_mul (by omega) (Nat.pow_le_pow_right Nat.zero_lt_two (by omega))
    have twice : 2 ^ (i + 1) = 2 * 2 ^ i := pow_succ' 2 i
    rcases full'.lt_or_eq with above | rfl
    · obtain ⟨n, rfl⟩ : ∃ q, n = q + 1 := ⟨n - 1, by omega⟩
      apply rounded_sq_lt_of_gap short' (by omega) high
      calc m * 2 ^ j ≤ (2 ^ 53 - 1) * 2 ^ i := small
        _ ≤ 2 ^ 52 * (2 * 2 ^ i) := by omega
        _ ≤ n * 2 ^ (i + 1) := by rw [twice]; exact Nat.mul_le_mul_right _ (by omega)
    · apply rounded_sq_lt_of_pow high
      omega
  · have mantissas : m < n := Nat.lt_of_mul_lt_mul_right less
    rcases full'.lt_or_eq with above | rfl
    · obtain ⟨n, rfl⟩ : ∃ q, n = q + 1 := ⟨n - 1, by omega⟩
      exact rounded_sq_lt_of_gap short' (by omega) high (Nat.mul_le_mul_right _ (by omega))
    · -- the least mantissa has none below it under the same exponent
      omega

/-- A magnitude below a power of two has a smaller square. -/
theorem rounded_sq_lt_pow {m l : ℕ} {e : ℤ} (c : Canonical m e) (high : 511 ≤ l) (low : l ≤ 2045)
    (less : m * 2 ^ (e + 1074).toNat < 2 ^ (52 + l)) :
    rounded 1074 (m * 2 ^ (e + 1074).toNat * (m * 2 ^ (e + 1074).toNat)) < rounded 1074 (2 ^ (52 + l + (52 + l))) := by
  have top : Canonical (2 ^ 52) (l - 1074) := ⟨by decide, by omega, by omega, .inl (Nat.le_refl _)⟩
  have scale : ((l : ℤ) - 1074 + 1074).toNat = l := by omega
  have below := rounded_sq_lt c top
  rw [scale, ← pow_add] at below
  rw [pow_add]
  exact below less (pow_le_pow_right₀ one_le_two (by omega))

/-! ### Squares of doubles -/

/-- The mantissa and the exponent of a finite double, or those of zero. -/
theorem exists_canonical (finite : x.isFinite = true) :
    ∃ m e, Canonical m e ∧ (units x).natAbs = m * 2 ^ (e + 1074).toNat := by
  unfold units
  rcases forms_of_isFinite finite with ⟨s, form⟩ | ⟨s, m, e, hm, form⟩ <;> rw [form]
  · exact ⟨0, -1074, ⟨by decide, by decide, by decide, .inr rfl⟩, (Nat.zero_mul _).symm⟩
  · exact ⟨m, e, canonical_of_unpacked form, natAbs_apply ..⟩

/-- The units of a square depend on the magnitude only. -/
theorem units_mul_self (finite : x.isFinite = true) : units (x * x) = squareUnits (units x).natAbs := by
  have square : 0 ≤ units x * units x := mul_self_nonneg _
  rw [units_mul finite finite, roundedUnits, if_neg (Int.not_lt.2 square), Int.natAbs_mul, squareUnits]

/-- Squares of finite doubles compare as the squares of their units, rounded. -/
theorem mul_self_le_iff (finite : x.isFinite = true) (finite' : y.isFinite = true) :
    x * x ≤ y * y ↔ squareUnits (units x).natAbs ≤ squareUnits (units y).natAbs := by
  have defined := (zero_le_iff.1 (zero_le_square (isNaN_of_isFinite finite))).1
  have defined' := (zero_le_iff.1 (zero_le_square (isNaN_of_isFinite finite'))).1
  rw [le_iff_units, and_iff_right defined, and_iff_right defined', units_mul_self finite, units_mul_self finite',
    Int.ofNat_le]

/-- The square of a double below two to the power of 512 is finite. -/
theorem rounded_sq_lt_limit (finite : x.isFinite = true) (small : (units x).natAbs < 2 ^ (52 + 1534)) :
    rounded 1074 ((units x).natAbs * (units x).natAbs) < limit := by
  obtain ⟨m, e, c, same⟩ := exists_canonical finite
  rw [same] at small ⊢
  rw [← rounded_sq_limit]
  exact rounded_sq_lt_pow c (by decide) (by decide) small

/-- Doubles of different magnitudes have different squares, if the larger magnitude is at least two to the power of minus
511 and the smaller one below two to the power of 512. -/
theorem mul_self_lt_mul_self (finite : x.isFinite = true) (finite' : y.isFinite = true)
    (less : (units x).natAbs < (units y).natAbs) (large : 2 ^ (53 + 510) ≤ (units y).natAbs)
    (small : (units x).natAbs < 2 ^ (52 + 1534)) : ¬ y * y ≤ x * x := by
  have below := rounded_sq_lt_limit finite small
  have squares :
      rounded 1074 ((units x).natAbs * (units x).natAbs) < rounded 1074 ((units y).natAbs * (units y).natAbs) := by
    obtain ⟨m, e, c, same⟩ := exists_canonical finite
    obtain ⟨n, d, c', same'⟩ := exists_canonical finite'
    rw [same'] at large
    rw [same, same'] at less ⊢
    exact rounded_sq_lt c c' less large
  rw [mul_self_le_iff finite' finite, Nat.not_le, squareUnits, squareUnits, saturated, if_pos below, saturated]
  split <;> omega

/-- The square of a smaller magnitude is not larger. -/
theorem mul_self_le_of_natAbs_le (finite : x.isFinite = true) (finite' : y.isFinite = true)
    (h : (units x).natAbs ≤ (units y).natAbs) : x * x ≤ y * y :=
  (mul_self_le_iff finite finite').2 (squareUnits_mono h)

/-- The square of two to the power of 512 is at least every square. -/
theorem le_mul_self_of_large (finite : x.isFinite = true) (finite' : y.isFinite = true)
    (large : 2 ^ (52 + 1534) ≤ (units y).natAbs) : x * x ≤ y * y := by
  rw [mul_self_le_iff finite finite', squareUnits_of_large large, squareUnits, saturated]
  split <;> omega

/-- The square of two to the power of minus 538 is at most every square. -/
theorem mul_self_le_of_small (finite : x.isFinite = true) (finite' : y.isFinite = true)
    (small : (units x).natAbs ≤ 2 ^ 536) : x * x ≤ y * y := by
  rw [mul_self_le_iff finite finite', squareUnits_of_small small]
  exact Nat.zero_le _

/-! ### Doubles as rational numbers -/

/-- The number that a finite double stands for. -/
def value (x : Float) : ℚ := units x / 2 ^ 1074

theorem abs_value (x : Float) : |value x| = (units x).natAbs / 2 ^ 1074 := by
  rw [value, abs_div, abs_of_pos (show (0 : ℚ) < 2 ^ 1074 by positivity), Nat.cast_natAbs, Int.cast_abs]

/-- Magnitudes compare as numbers iff they do in units. -/
theorem abs_value_le_abs_value_iff : |value x| ≤ |value y| ↔ (units x).natAbs ≤ (units y).natAbs := by
  rw [abs_value, abs_value, div_le_div_iff_of_pos_right (by positivity), Nat.cast_le]

/-- A power of two, counted in units of the least positive double. -/
theorem zpow_eq {z : ℤ} {n : ℕ} (h : z + 1074 = n) : (2 : ℚ) ^ z = (2 ^ n : ℕ) / 2 ^ 1074 := by
  rw [eq_div_iff (by positivity), Nat.cast_pow, Nat.cast_ofNat, ← zpow_natCast, ← zpow_natCast, ← zpow_add₀ two_ne_zero]
  exact congrArg _ h

theorem zpow_le_abs_value_iff {z : ℤ} {n : ℕ} (h : z + 1074 = n) : 2 ^ z ≤ |value x| ↔ 2 ^ n ≤ (units x).natAbs := by
  rw [abs_value, zpow_eq h, div_le_div_iff_of_pos_right (by positivity), Nat.cast_le]

theorem abs_value_le_zpow_iff {z : ℤ} {n : ℕ} (h : z + 1074 = n) : |value x| ≤ 2 ^ z ↔ (units x).natAbs ≤ 2 ^ n := by
  rw [abs_value, zpow_eq h, div_le_div_iff_of_pos_right (by positivity), Nat.cast_le]

/-- A double stands for the difference of two others iff its units are the difference of theirs. -/
theorem value_eq_sub_iff {d : Float} : value d = value x - value y ↔ units d = units x - units y := by
  rw [value, value, value, ← sub_div, div_left_inj' (by positivity), ← Int.cast_sub, Int.cast_inj]

theorem abs_value_of_nonneg (nonneg : 0.0 ≤ x) : |value x| = value x := by
  have sign : (0 : ℚ) ≤ units x := Int.cast_nonneg (zero_le_iff.1 nonneg).2
  apply abs_of_nonneg
  unfold value
  positivity

end DensityAudit.Binary64
