import DensityAudit.Proofs.Doubles.Squares

/-!
# Results that are zero

A root is zero only of zero (`sqrt_beq_zero`), and a running sum of doubles that are not negative only if every term is
(`foldl_add_beq_zero_iff`). A square is also zero if the double is tiny, so the squared difference of two finite doubles
is zero as soon as they are close enough: it always is up to two to the power of minus 538, and never from two to the
power of minus 537 on (`natAbs_sub_lt_of_square`). Doubles that are so close are equal, unless both are tiny
themselves (`units_eq_of_close`).
-/

namespace DensityAudit.Binary64

open Float.Model (Format UnpackedFloat)
open Float.Model.UnpackedFloat

variable {x y : Float}

/-! ### Roots -/

theorem mantissa_shift (em : ExtendedMantissa) (n : ℕ) : (em >>> n).mantissa = em.mantissa / 2 ^ n := by
  show (Nat.repeat ExtendedMantissa.shiftRightOne n em).mantissa = _
  induction n with
  | zero => exact (Nat.div_one _).symm
  | succ n ih =>
    show (Nat.repeat ExtendedMantissa.shiftRightOne n em).mantissa / 2 = _
    rw [ih, Nat.div_div_eq_div_mul, pow_succ]

theorem mantissa_ofMantissaAndAccuracy (m : ℕ) (acc : Accuracy) :
    (ExtendedMantissa.ofMantissaAndAccuracy m acc).mantissa = m := by
  cases acc with
  | exact => rfl
  | inexact o => cases o <;> rfl

theorem mantissa_le_roundedMantissa (em : ExtendedMantissa) : em.mantissa ≤ em.roundedMantissa := by
  obtain ⟨m, half, rest⟩ := em
  cases half <;> cases rest
  · exact Nat.le_refl m
  · exact Nat.le_refl m
  · exact Nat.le_add_right m _
  · exact Nat.le_succ m

/-- The bits that are left at the target exponent, if it is not below the least one: some, and at most fifty-three. -/
theorem shiftToTargetExponent_bits {m : ℕ} {e : ℤ} (positive : 0 < m) (least : -1074 ≤ e) (acc : Accuracy) :
    0 < (shiftToTargetExponent Format.binary64 m e acc).1.mantissa ∧
      (shiftToTargetExponent Format.binary64 m e acc).1.mantissa < 2 ^ 53 ∧
      -1074 ≤ (shiftToTargetExponent Format.binary64 m e acc).2 := by
  have few : (target m e - e).toNat ≤ m.log2 := by unfold target; omega
  have enough : m.log2 ≤ 52 + (target m e - e).toNat := by unfold target; omega
  simp only [shiftToTargetExponent, targetExponent_eq, shiftToExponent, mantissa_shift, mantissa_ofMantissaAndAccuracy]
  generalize (target m e - e).toNat = n at few enough ⊢
  have lead : 2 ^ m.log2 ≤ m := Nat.log2_self_le positive.ne'
  have below : m < 2 ^ (m.log2 + 1) := Nat.lt_log2_self
  refine ⟨?_, ?_, by omega⟩
  · exact Nat.div_pos ((Nat.pow_le_pow_right Nat.zero_lt_two few).trans lead) (Nat.two_pow_pos n)
  · rw [Nat.div_lt_iff_lt_mul (Nat.two_pow_pos n), ← pow_add]
    exact below.trans_le (Nat.pow_le_pow_right Nat.zero_lt_two (by omega))

/-- At an exponent that is not below the least one nothing is rounded to zero. -/
theorem exists_roundWithAccuracy (s : Sign) {m : ℕ} {e : ℤ} (positive : 0 < m) (least : -1074 ≤ e) (acc : Accuracy) :
    ∃ n d hn, roundWithAccuracy Format.binary64 s m e acc = .finite s n d hn ∧ n < 2 ^ 53 ∧ -1074 ≤ d := by
  obtain ⟨some, -, first⟩ := shiftToTargetExponent_bits positive least acc
  have kept := mantissa_le_roundedMantissa (shiftToTargetExponent Format.binary64 m e acc).1
  obtain ⟨some', short, second⟩ := shiftToTargetExponent_bits (some.trans_le kept) first .exact
  exact ⟨_, _, some', by simp only [roundWithAccuracy, dif_neg some'.ne'], short, second⟩

/-- A number of at most fifty-three bits is not read back as zero, whether its mantissa is full or not. -/
theorem repack_finite_ne_zero (s t : Sign) {m : ℕ} {e : ℤ} (positive : 0 < m) (short : m < 2 ^ 53) (least : -1074 ≤ e) :
    repack (.finite s m e positive) ≠ .zero t := by
  by_cases normal : 2 ^ 52 ≤ m
  · rw [repack_finite s positive short least (.inl normal)]
    split <;> exact fun same => by cases same
  · have log : m.log2 < 52 := (Nat.log2_lt positive.ne').2 (Nat.lt_of_not_le normal)
    by_cases beyond : 2 ^ 11 ≤ (e + 1023 + 52).toNat + 1
    · rw [repack, pack_finite, if_pos beyond]
      cases s <;> exact fun same => by cases same
    · -- a mantissa that is not full is stored without its exponent
      have stored : pack Format.binary64 (.finite s m e positive) = pack Format.binary64 (.finite s m (-1074) positive) := by
        rw [pack_finite, pack_finite, if_neg beyond, if_neg (by omega), if_neg (by decide), if_neg (by omega)]
      have same : repack (.finite s m e positive) = repack (.finite s m (-1074) positive) :=
        congrArg (unpack Format.binary64) stored
      rw [same, repack_subnormal s positive (Nat.lt_of_not_le normal)]
      exact fun zero => by cases zero

/-- The root of a positive number has some bits, at an exponent that is not below the least one. -/
theorem sqrtCore_bits {m : ℕ} {e : ℤ} (positive : 0 < m) (least : -1074 ≤ e) :
    0 < (sqrtCore Format.binary64 m e).1 ∧ -1074 ≤ (sqrtCore Format.binary64 m e).2.1 := by
  have scale : -1074 ≤ Format.binary64.targetExponent ((Float.Model.totalExponent m e + 1).ediv 2) := by
    simp only [Format.targetExponent, Format.minExponent, Format.mantissaBits]
    omega
  have half : -1074 ≤ e.ediv 2 := by
    show -1074 ≤ e / 2
    omega
  refine ⟨?_, le_min half scale⟩
  show 0 < Nat.sqrt _
  rw [Nat.sqrt_pos, Nat.shiftLeft_eq]
  exact Nat.mul_pos positive (Nat.two_pow_pos _)

/-- A root is zero only of zero. -/
theorem sqrt_beq_zero (x : Float) : (x.sqrt == 0.0) = (x == 0.0) := by
  rw [beq_iff, beq_iff, unpacked_sqrt, unpacked_zero]
  cases form : unpacked x with
  | notANumber => rfl
  | infinity s => cases s <;> rfl
  | zero s => exact congrArg (UnpackedFloat.beq · _) (repack_zero s)
  | finite s m e hm =>
    cases s with
    | negative =>
      have root : sqrt Format.binary64 (.finite .negative m e hm) = .notANumber := rfl
      rw [root]
      rfl
    | positive =>
      obtain ⟨some, least⟩ := sqrtCore_bits hm (canonical_of_unpacked form).least
      obtain ⟨n, d, hn, rounded, short, least'⟩ := exists_roundWithAccuracy .positive some least (sqrtCore Format.binary64 m e).2.2
      have root : sqrt Format.binary64 (.finite .positive m e hm) = .finite .positive n d hn := rounded
      have nonzero := fun t => repack_finite_ne_zero .positive t hn short least'
      rw [root]
      cases read : repack (.finite .positive n d hn) with
      | zero t => exact absurd read (nonzero t)
      | notANumber => rfl
      | infinity t => cases t <;> rfl
      | finite t m' e' hm' => cases t <;> rfl

/-! ### Sums -/

/-- A double equals zero iff it is defined and has no units. -/
theorem beq_zero_iff : (x == 0.0) = true ↔ x.isNaN = false ∧ units x = 0 := by
  constructor
  · intro zero
    have defined : x.isNaN = false := by
      by_contra undefined
      rw [beq_zero_of_isNaN (Bool.not_eq_false _ ▸ undefined)] at zero
      cases zero
    refine ⟨defined, ?_⟩
    rwa [beq_iff_units defined (zero_le_iff.1 zero_le_zero).1, units_zero] at zero
  · rintro ⟨defined, none⟩
    rw [beq_iff_units defined (zero_le_iff.1 zero_le_zero).1, units_zero, none]

/-- A running sum of doubles that are not negative is zero iff all of them are. -/
theorem foldl_add_beq_zero_iff {xs : List Float} (nonneg : ∀ v ∈ xs, 0.0 ≤ v) :
    (xs.foldl (· + ·) 0.0 == 0.0) = true ↔ ∀ v ∈ xs, (v == 0.0) = true := by
  constructor
  · intro zero v member
    have below := (le_iff_units.1 ((le_foldl_add nonneg zero_le_zero).2 v member)).2.2
    obtain ⟨defined, above⟩ := zero_le_iff.1 (nonneg v member)
    rw [(beq_zero_iff.1 zero).2] at below
    exact beq_zero_iff.2 ⟨defined, by omega⟩
  · intro zeros
    have total : ∀ a : Float, (a == 0.0) = true → (xs.foldl (· + ·) a == 0.0) = true := by
      clear nonneg
      induction xs with
      | nil => exact fun a start => start
      | cons v rest ih =>
        intro a start
        obtain ⟨defined, none⟩ := beq_zero_iff.1 start
        obtain ⟨defined', none'⟩ := beq_zero_iff.1 (zeros v (List.mem_cons_self ..))
        have sum := zero_le_iff.1 (add_nonneg (zero_le_iff.2 ⟨defined, none.ge⟩) (zero_le_iff.2 ⟨defined', none'.ge⟩))
        refine ih (fun w member => zeros w (.tail _ member)) (a + v) (beq_zero_iff.2 ⟨sum.1, ?_⟩)
        rw [units_add sum.1, none, none', Int.add_zero, roundedUnits_zero]
    exact total 0.0 (beq_zero_iff.2 ⟨(zero_le_iff.1 zero_le_zero).1, units_zero⟩)

/-! ### Squared differences -/

theorem rounded_two_pow (least : ℕ) : rounded least (2 ^ least) = 1 := by
  have drop : dropped least (2 ^ least) = least := by
    rw [dropped, Nat.log2_two_pow]
    omega
  have exact := halfEven_of_multiple 1 least
  rw [Nat.one_mul] at exact
  rw [rounded, drop, exact, Nat.sub_self, pow_zero, Nat.one_mul]

/-- From two to the power of minus 537 on squares are not zero. -/
theorem natAbs_lt_of_squareUnits {n : ℕ} (zero : squareUnits n = 0) : n < 2 ^ 537 := by
  by_contra large
  have least : rounded 1074 (2 ^ (537 + 537)) = 1 := rounded_two_pow (537 + 537)
  have above := rounded_mono 1074 (pow_le_sq (Nat.le_of_not_lt large))
  rw [least] at above
  rw [squareUnits, saturated] at zero
  have positive := limit_pos
  split at zero <;> omega

theorem two_pow_lt_limit {k : ℕ} (h : k < limitExponent) : 2 ^ k < limit := Nat.pow_lt_pow_right Nat.one_lt_two h

/-- A power of two is not rounded. -/
theorem roundedUnits_two_pow {k : ℕ} (below : 2 ^ k < limit) :
    roundedUnits 0 (2 ^ k : ℕ) = (2 ^ k : ℕ) ∧ roundedUnits 0 (-(2 ^ k : ℕ)) = -(2 ^ k : ℕ) := by
  have exact : ∀ s : Sign, roundedUnits 0 (s.apply (2 ^ k : ℕ)) = s.apply (2 ^ k : ℕ) := by
    intro s
    have short := roundedUnits_of_short s (show 1 ≤ 2 ^ 53 by decide) (k := k)
    rw [Nat.one_mul] at short
    exact short below
  exact ⟨exact .positive, exact .negative⟩

/-- Numbers of units that are at least a power of two apart are not rounded closer. -/
theorem natAbs_lt_of_roundedUnits {k : ℕ} (below : 2 ^ k < limit) {u : ℤ} (close : (roundedUnits 0 u).natAbs < 2 ^ k) :
    u.natAbs < 2 ^ k := by
  obtain ⟨up, down⟩ := roundedUnits_two_pow below
  by_contra far
  rcases Int.le_total 0 u with nonneg | negative
  · have kept := roundedUnits_mono 0 (show ((2 ^ k : ℕ) : ℤ) ≤ u by omega)
    omega
  · have kept := roundedUnits_mono 0 (show u ≤ -((2 ^ k : ℕ) : ℤ) by omega)
    omega

/-- Rounding does not pass a power of two. -/
theorem natAbs_roundedUnits_le {k : ℕ} (below : 2 ^ k < limit) {u : ℤ} (close : u.natAbs ≤ 2 ^ k) :
    (roundedUnits 0 u).natAbs ≤ 2 ^ k := by
  obtain ⟨up, down⟩ := roundedUnits_two_pow below
  have above := roundedUnits_mono 0 (show u ≤ ((2 ^ k : ℕ) : ℤ) by omega)
  have kept := roundedUnits_mono 0 (show -((2 ^ k : ℕ) : ℤ) ≤ u by omega)
  omega

/-- Doubles whose difference has the square zero are finite and less than two to the power of minus 537 apart. -/
theorem natAbs_sub_lt_of_square (zero : ((x - y) * (x - y) == 0.0) = true) :
    (x.isFinite = true ∧ y.isFinite = true) ∧ (units x - units y).natAbs < 2 ^ 537 := by
  obtain ⟨defined, none⟩ := beq_zero_iff.1 zero
  have square : ((x - y) * (x - y)).isFinite = true := (isFinite_iff_units defined).2 (none ▸ limit_pos)
  have difference := (Taints.mul_self (x - y)).finite square
  refine ⟨⟨(Taints.sub_left x y).finite difference, (Taints.sub_right x y).finite difference⟩, ?_⟩
  rw [units_mul_self difference, Int.natCast_eq_zero] at none
  have close := natAbs_lt_of_squareUnits none
  rw [units_sub (isNaN_of_isFinite difference)] at close
  exact natAbs_lt_of_roundedUnits (two_pow_lt_limit (by decide)) close

/-- Doubles that are up to two to the power of minus 538 apart have a difference with the square zero. -/
theorem square_beq_zero_of_close (finite : x.isFinite = true) (finite' : y.isFinite = true)
    (close : (units x - units y).natAbs ≤ 2 ^ 536) : ((x - y) * (x - y) == 0.0) = true := by
  have defined := isNaN_sub_of_isFinite finite finite'
  have unsigned := zero_le_iff.1 (zero_le_square defined)
  have small : (units (x - y)).natAbs ≤ 2 ^ 536 := by
    rw [units_sub defined]
    exact natAbs_roundedUnits_le (two_pow_lt_limit (by decide)) close
  have difference : (x - y).isFinite = true := by
    rw [isFinite_iff_units defined]
    exact small.trans_lt (two_pow_lt_limit (by decide))
  rw [beq_zero_iff, units_mul_self difference, squareUnits_of_small small]
  exact ⟨unsigned.1, rfl⟩

/-! ### Doubles that are close -/

theorem mul_pow_le {n k l : ℕ} (short : n < 2 ^ 53) (low : k ≤ l) : n * 2 ^ k ≤ (2 ^ 53 - 1) * 2 ^ l :=
  Nat.mul_le_mul (Nat.le_sub_one_of_lt short) (Nat.pow_le_pow_right Nat.zero_lt_two low)

/-- The units of a double are a multiple of two to the power of 537, or less than two to the power of 589. -/
theorem multiple_or_small (finite : x.isFinite = true) :
    (∃ q, (units x).natAbs = q * 2 ^ 537) ∨ (units x).natAbs + 2 ^ 536 ≤ 2 ^ 589 := by
  obtain ⟨m, e, c, same⟩ := exists_canonical finite
  have short := c.short
  rw [same]
  generalize (e + 1074).toNat = k
  by_cases high : 537 ≤ k
  · obtain ⟨i, rfl⟩ : ∃ i, k = i + 537 := ⟨k - 537, by omega⟩
    exact .inl ⟨m * 2 ^ i, by rw [pow_add, Nat.mul_assoc]⟩
  · refine .inr ?_
    have less := mul_pow_le short (show k ≤ 536 by omega)
    omega

/-- Doubles less than two to the power of minus 537 apart are equal if one of them is larger than two to the power of
minus 485 in magnitude. -/
theorem units_eq_of_close (finite : x.isFinite = true) (finite' : y.isFinite = true)
    (close : (units x - units y).natAbs < 2 ^ 537)
    (large : 2 ^ 589 < (units x).natAbs ∨ 2 ^ 589 < (units y).natAbs) : units x = units y := by
  rcases multiple_or_small finite with ⟨q, multiple⟩ | small
  case inr => rcases multiple_or_small finite' with ⟨q', multiple'⟩ | small' <;> omega
  rcases multiple_or_small finite' with ⟨q', multiple'⟩ | small'
  case inr => omega
  -- both are multiples of a power of two that is larger than their difference
  have same : q = q' := by
    rcases Nat.lt_trichotomy q q' with less | same | more
    · have gap : (q + 1) * 2 ^ 537 ≤ q' * 2 ^ 537 := Nat.mul_le_mul_right _ less
      rw [Nat.succ_mul] at gap
      omega
    · exact same
    · have gap : (q' + 1) * 2 ^ 537 ≤ q * 2 ^ 537 := Nat.mul_le_mul_right _ more
      rw [Nat.succ_mul] at gap
      omega
  subst same
  omega

/-! ### Differences of rational numbers -/

theorem value_eq_iff : value x = value y ↔ units x = units y := by
  rw [value, value, div_left_inj' (by positivity), Int.cast_inj]

theorem abs_value_sub (x y : Float) : |value x - value y| = (units x - units y).natAbs / 2 ^ 1074 := by
  rw [value, value, ← sub_div, ← Int.cast_sub, abs_div, abs_of_pos (show (0 : ℚ) < 2 ^ 1074 by positivity),
    Nat.cast_natAbs, Int.cast_abs]

theorem abs_value_sub_le_zpow_iff {z : ℤ} {n : ℕ} (h : z + 1074 = n) :
    |value x - value y| ≤ 2 ^ z ↔ (units x - units y).natAbs ≤ 2 ^ n := by
  rw [abs_value_sub, zpow_eq h, div_le_div_iff_of_pos_right (by positivity), Nat.cast_le]

theorem abs_value_sub_lt_zpow_iff {z : ℤ} {n : ℕ} (h : z + 1074 = n) :
    |value x - value y| < 2 ^ z ↔ (units x - units y).natAbs < 2 ^ n := by
  rw [abs_value_sub, zpow_eq h, div_lt_div_iff_of_pos_right (by positivity), Nat.cast_lt]

end DensityAudit.Binary64
