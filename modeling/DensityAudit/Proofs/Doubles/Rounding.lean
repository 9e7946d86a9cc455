import Mathlib

/-!
# Rounding to fifty-three significant bits

The rounding of doubles, told on whole numbers: the low bits beyond fifty-three are dropped, and the quotient
goes to the nearest whole number, a half to the even one. Rounding is monotone (`rounded_mono`) also across
numbers that lose a different number of bits, and leaves short numbers as they are (`rounded_of_short`). The
bit-by-bit shifts of the arithmetic on doubles compute this quotient (`roundedMantissa_shift`).
-/

namespace DensityAudit.Binary64

open Float.Model.UnpackedFloat (ExtendedMantissa)

/-- `m` divided by `2 ^ n`, to the nearest whole number; a half goes to the even one. -/
def halfEven (m n : ℕ) : ℕ :=
  if 2 * (m % 2 ^ n) < 2 ^ n then m / 2 ^ n
  else if 2 * (m % 2 ^ n) = 2 ^ n then m / 2 ^ n + m / 2 ^ n % 2
  else m / 2 ^ n + 1

theorem div_le_halfEven (m n : ℕ) : m / 2 ^ n ≤ halfEven m n := by
  unfold halfEven
  split_ifs <;> omega

theorem halfEven_le_div_add_one (m n : ℕ) : halfEven m n ≤ m / 2 ^ n + 1 := by
  unfold halfEven
  split_ifs <;> omega

/-- Rounding keeps the order. -/
theorem halfEven_mono {m m' : ℕ} (n : ℕ) (h : m ≤ m') : halfEven m n ≤ halfEven m' n := by
  have quotients : m / 2 ^ n ≤ m' / 2 ^ n := Nat.div_le_div_right h
  rcases quotients.lt_or_eq with less | same
  · have above := halfEven_le_div_add_one m n
    have below := div_le_halfEven m' n
    omega
  · have remainders : m % 2 ^ n ≤ m' % 2 ^ n := by
      have whole := Nat.div_add_mod m (2 ^ n)
      have whole' := Nat.div_add_mod m' (2 ^ n)
      rw [same] at whole
      omega
    unfold halfEven
    split_ifs <;> omega

/-- Low zero bits of the number and of the divisor cancel. -/
theorem halfEven_mul_pow (m n k : ℕ) : halfEven (m * 2 ^ k) (n + k) = halfEven m n := by
  have power : 2 ^ (n + k) = 2 ^ n * 2 ^ k := pow_add 2 n k
  have positive : 0 < 2 ^ k := Nat.two_pow_pos k
  have quotient : m * 2 ^ k / (2 ^ n * 2 ^ k) = m / 2 ^ n := Nat.mul_div_mul_right m (2 ^ n) positive
  have remainder : 2 * (m * 2 ^ k % (2 ^ n * 2 ^ k)) = 2 * (m % 2 ^ n) * 2 ^ k := by
    rw [Nat.mul_mod_mul_right, mul_assoc]
  simp only [halfEven, power, quotient, remainder, Nat.mul_lt_mul_right positive,
    Nat.mul_left_inj positive.ne']

theorem halfEven_zero (m : ℕ) : halfEven m 0 = m := by
  simp [halfEven, Nat.mod_one]

/-- A multiple of the divisor has an exact quotient. -/
theorem halfEven_of_multiple (m n : ℕ) : halfEven (m * 2 ^ n) n = m := by
  have cancelled := halfEven_mul_pow m 0 n
  rwa [Nat.zero_add, halfEven_zero] at cancelled

/-! ### Shifting bit by bit -/

/-- What shifting `m` to the right `n` times keeps: the quotient, whether the remainder is at least a half,
and whether it differs from nothing and from a half. -/
structure Shifted (m n : ℕ) (em : ExtendedMantissa) : Prop where
  mantissa : em.mantissa = m / 2 ^ n
  roundBit : em.roundBit = decide (2 ^ n ≤ 2 * (m % 2 ^ n))
  stickyBit : em.stickyBit = decide (2 * (m % 2 ^ n) % 2 ^ n ≠ 0)

theorem Shifted.start (m : ℕ) : Shifted m 0 (.ofMantissaAndAccuracy m .exact) where
  mantissa := (Nat.div_one m).symm
  roundBit := by simp [ExtendedMantissa.ofMantissaAndAccuracy, Nat.mod_one]
  stickyBit := by simp [ExtendedMantissa.ofMantissaAndAccuracy, Nat.mod_one]

/-- One more shift keeps what is known of the bits shifted out. -/
theorem Shifted.step {m n : ℕ} {em : ExtendedMantissa} (h : Shifted m n em) : Shifted m (n + 1) em.shiftRightOne := by
  have positive : 0 < 2 ^ n := Nat.two_pow_pos n
  have small : m % 2 ^ n < 2 ^ n := Nat.mod_lt _ positive
  have power : 2 ^ (n + 1) = 2 * 2 ^ n := by rw [pow_succ, mul_comm]
  -- the bit that is shifted out now leads the remainder
  have remainder : m % 2 ^ (n + 1) = m % 2 ^ n + 2 ^ n * (m / 2 ^ n % 2) := by rw [pow_succ, Nat.mod_mul]
  have bit : m / 2 ^ n % 2 = 0 ∨ m / 2 ^ n % 2 = 1 := Nat.mod_two_eq_zero_or_one _
  have twice : 2 * (m % 2 ^ (n + 1)) % 2 ^ (n + 1) = 2 * (m % 2 ^ n) := by
    rw [power, Nat.mul_mod_mul_left, ← power, remainder, Nat.add_mul_mod_self_left, Nat.mod_eq_of_lt small]
  refine ⟨?_, ?_, ?_⟩
  · show em.mantissa / 2 = m / 2 ^ (n + 1)
    rw [h.mantissa, Nat.div_div_eq_div_mul, pow_succ]
  · show (em.mantissa % 2 != 0) = _
    rw [h.mantissa, remainder, power, Bool.eq_iff_iff, bne_iff_ne, decide_eq_true_iff]
    rcases bit with zero | one
    · rw [zero, Nat.mul_zero]
      omega
    · rw [one, Nat.mul_one]
      omega
  · show (em.roundBit || em.stickyBit) = _
    rw [h.roundBit, h.stickyBit, twice, ← Bool.decide_or, decide_eq_decide]
    constructor
    · rintro (half | rest)
      · omega
      · intro none
        rw [none, Nat.zero_mod] at rest
        exact rest rfl
    · intro some
      by_cases half : 2 ^ n ≤ 2 * (m % 2 ^ n)
      · exact .inl half
      · rw [Nat.mod_eq_of_lt (Nat.lt_of_not_le half)]
        exact .inr some

/-- Any number of shifts keeps what is known of the bits shifted out. -/
theorem shifted (m n : ℕ) : Shifted m n (ExtendedMantissa.ofMantissaAndAccuracy m .exact >>> n) := by
  show Shifted m n (Nat.repeat ExtendedMantissa.shiftRightOne n _)
  induction n with
  | zero => exact .start m
  | succ n ih => exact ih.step

/-- The shifted mantissa, rounded by the bits that were kept, is the rounded quotient. -/
theorem roundedMantissa_shift (m n : ℕ) :
    (ExtendedMantissa.ofMantissaAndAccuracy m .exact >>> n).roundedMantissa = halfEven m n := by
  obtain ⟨mantissa, roundBit, stickyBit⟩ := shifted m n
  have small : m % 2 ^ n < 2 ^ n := Nat.mod_lt _ (Nat.two_pow_pos n)
  generalize (ExtendedMantissa.ofMantissaAndAccuracy m .exact >>> n) = em at *
  obtain ⟨quotient, half, rest⟩ := em
  obtain rfl : quotient = m / 2 ^ n := mantissa
  change half = _ at roundBit
  change rest = _ at stickyBit
  cases half with
  | false =>
    have below : 2 * (m % 2 ^ n) < 2 ^ n := by simpa using roundBit.symm
    rw [halfEven, if_pos below]
    cases rest <;> rfl
  | true =>
    have above : 2 ^ n ≤ 2 * (m % 2 ^ n) := by simpa using roundBit.symm
    have beyond : 2 * (m % 2 ^ n) % 2 ^ n = 2 * (m % 2 ^ n) - 2 ^ n := by
      rw [Nat.mod_eq_sub_mod above, Nat.mod_eq_of_lt (by omega)]
    rw [beyond] at stickyBit
    rw [halfEven, if_neg (by omega)]
    cases rest with
    | false =>
      have exact : 2 * (m % 2 ^ n) - 2 ^ n = 0 := by simpa using stickyBit.symm
      rw [if_pos (by omega)]
      rfl
    | true =>
      have more : 2 * (m % 2 ^ n) - 2 ^ n ≠ 0 := by simpa using stickyBit.symm
      rw [if_neg (by omega)]
      rfl

/-! ### Significant bits -/

/-- How many low bits of `u` are dropped: all beyond fifty-three, but at least `least`. -/
def dropped (least u : ℕ) : ℕ := max (u.log2 - 52) least

/-- `u` rounded to fifty-three significant bits, and to a multiple of `2 ^ least`, which it is counted in. -/
def rounded (least u : ℕ) : ℕ := halfEven u (dropped least u) * 2 ^ (dropped least u - least)

theorem least_le_dropped (least u : ℕ) : least ≤ dropped least u := le_max_right _ _

theorem dropped_mono (least : ℕ) {u v : ℕ} (h : u ≤ v) : dropped least u ≤ dropped least v := by
  have logs : u.log2 ≤ v.log2 := by
    rw [Nat.log2_eq_log_two, Nat.log2_eq_log_two]
    exact Nat.log_mono_right h
  unfold dropped
  omega

/-- The quotient has at most fifty-three bits, or is the next power of two. -/
theorem halfEven_dropped_le (least u : ℕ) : halfEven u (dropped least u) ≤ 2 ^ 53 := by
  have below : u < 2 ^ (53 + dropped least u) :=
    Nat.lt_log2_self.trans_le (Nat.pow_le_pow_right (by omega) (by unfold dropped; omega))
  have quotient : u / 2 ^ dropped least u < 2 ^ 53 := by
    rw [Nat.div_lt_iff_lt_mul (Nat.two_pow_pos _), ← pow_add]
    exact below
  have above := halfEven_le_div_add_one u (dropped least u)
  omega

/-- If more bits are dropped than must be, the quotient has fifty-three bits. -/
theorem le_halfEven_dropped {least u : ℕ} (h : least < dropped least u) :
    2 ^ 52 ≤ halfEven u (dropped least u) := by
  have exponent : dropped least u = u.log2 - 52 := by unfold dropped at h ⊢; omega
  have nonzero : u ≠ 0 := by
    rintro rfl
    rw [exponent] at h
    simp at h
  have above : 2 ^ (52 + dropped least u) ≤ u := by
    have lead : 2 ^ u.log2 ≤ u := Nat.log2_self_le nonzero
    rwa [show 52 + dropped least u = u.log2 by omega]
  refine le_trans ?_ (div_le_halfEven u _)
  rw [Nat.le_div_iff_mul_le (Nat.two_pow_pos _), ← pow_add]
  exact above

theorem log2_mul_pow {m : ℕ} (k : ℕ) (nonzero : m ≠ 0) : (m * 2 ^ k).log2 = m.log2 + k := by
  induction k with
  | zero => rw [pow_zero, mul_one, Nat.add_zero]
  | succ k ih =>
    have doubled : m * 2 ^ (k + 1) = 2 * (m * 2 ^ k) := by ring
    rw [doubled, Nat.log2_two_mul (Nat.mul_ne_zero nonzero (Nat.two_pow_pos k).ne'), ih, Nat.add_assoc]

theorem rounded_zero (least : ℕ) : rounded least 0 = 0 := by
  simp [rounded, halfEven]

/-- A larger number is not rounded to a smaller one. -/
theorem rounded_mono (least : ℕ) {u v : ℕ} (h : u ≤ v) : rounded least u ≤ rounded least v := by
  have drop := dropped_mono least h
  have first := least_le_dropped least u
  rcases drop.lt_or_eq with less | same
  · -- the larger number has a bit more: a power of two lies between the results
    calc rounded least u ≤ 2 ^ 53 * 2 ^ (dropped least u - least) :=
          Nat.mul_le_mul_right _ (halfEven_dropped_le least u)
      _ = 2 ^ 52 * 2 ^ (dropped least u + 1 - least) := by
          rw [← pow_add, ← pow_add]
          congr 1
          omega
      _ ≤ 2 ^ 52 * 2 ^ (dropped least v - least) :=
          Nat.mul_le_mul_left _ (Nat.pow_le_pow_right (by omega) (by omega))
      _ ≤ rounded least v := Nat.mul_le_mul_right _ (le_halfEven_dropped (first.trans_lt less))
  · unfold rounded
    rw [same]
    exact Nat.mul_le_mul_right _ (halfEven_mono _ h)

/-- A number of at most fifty-three bits, followed by zeros, is exact. -/
theorem rounded_of_short {m : ℕ} (k : ℕ) (short : m ≤ 2 ^ 53) : rounded 0 (m * 2 ^ k) = m * 2 ^ k := by
  rcases Nat.eq_zero_or_pos m with rfl | positive
  · rw [Nat.zero_mul, rounded_zero]
  rcases short.lt_or_eq with below | rfl
  · have bits : m.log2 < 53 := (Nat.log2_lt positive.ne').2 below
    have log : (m * 2 ^ k).log2 = m.log2 + k := log2_mul_pow k positive.ne'
    have drop : dropped 0 (m * 2 ^ k) ≤ k := by unfold dropped; omega
    obtain ⟨rest, split⟩ := Nat.exists_eq_add_of_le' drop
    have zeros : m * 2 ^ k = m * 2 ^ rest * 2 ^ dropped 0 (m * 2 ^ k) := by
      rw [mul_assoc, ← pow_add, ← split]
    rw [rounded, Nat.sub_zero]
    generalize dropped 0 (m * 2 ^ k) = d at *
    rw [zeros, halfEven_of_multiple]
  · have power : 2 ^ 53 * 2 ^ k = 2 ^ (k + 1) * 2 ^ 52 := by rw [← pow_add, ← pow_add]; congr 1; omega
    have log : (2 ^ 53 * 2 ^ k).log2 = 53 + k := by rw [← pow_add, Nat.log2_two_pow]
    have drop : dropped 0 (2 ^ 53 * 2 ^ k) = k + 1 := by unfold dropped; omega
    rw [rounded, drop, Nat.sub_zero, power, mul_comm (2 ^ (k + 1)), halfEven_of_multiple]

end DensityAudit.Binary64
