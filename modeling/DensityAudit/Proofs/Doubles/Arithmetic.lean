import DensityAudit.Proofs.Doubles.Rounding
import DensityAudit.Proofs.Doubles.Units

/-!
# Sums, products and counts of doubles in units

Arithmetic on doubles is exact arithmetic on their units, rounded once: `units_add` for every defined sum,
`units_mul` for finite factors, `units_ofCount` for counts. Rounding is monotone (`roundedUnits_mono`), so these
equations carry the order of the exact results over to the doubles.
-/

namespace DensityAudit.Binary64

open Float.Model (Format UnpackedFloat)
open Float.Model.UnpackedFloat

/-! ### Rounding an exact result -/

/-- The exponent that `m * 2 ^ e` is rounded to. -/
def target (m : ℕ) (e : ℤ) : ℤ := max (m.log2 + e - 52) (-1074)

theorem targetExponent_eq (m : ℕ) (e : ℤ) : Format.binary64.targetExponent (Float.Model.totalExponent m e) = target m e := by
  simp only [Format.targetExponent, Float.Model.totalExponent, target, Format.mantissaBits, Format.minExponent]
  omega

theorem shift_zero (em : ExtendedMantissa) : em >>> (0 : ℕ) = em := rfl

/-- A quotient of at most fifty-three bits stays, and the next power of two loses its last bit. -/
theorem shiftToTargetExponent_of_le {r : ℕ} {t : ℤ} (short : r ≤ 2 ^ 53) (least : -1074 ≤ t) :
    shiftToTargetExponent Format.binary64 r t .exact =
      if r < 2 ^ 53 then (.ofMantissaAndAccuracy r .exact, t) else (.ofMantissaAndAccuracy (2 ^ 52) .exact, t + 1) := by
  rw [shiftToTargetExponent, targetExponent_eq, shiftToExponent]
  split
  case isTrue below =>
    have bits : r.log2 < 53 := by
      rcases Nat.eq_zero_or_pos r with rfl | positive
      · decide
      · exact (Nat.log2_lt positive.ne').2 below
    have none : (target r t - t).toNat = 0 := by unfold target; omega
    rw [none, shift_zero, Nat.cast_zero, add_zero]
  case isFalse full =>
    obtain rfl : r = 2 ^ 53 := by omega
    have log : (2 ^ 53).log2 = 53 := by decide
    have one : (target (2 ^ 53) t - t).toNat = 1 := by unfold target; rw [log]; omega
    rw [one]
    rfl

/-- An exact result is rounded to a quotient at its target exponent. -/
theorem roundWithAccuracy_eq (s : Sign) {m : ℕ} {e : ℤ} (coarser : e ≤ target m e)
    (short : halfEven m (target m e - e).toNat ≤ 2 ^ 53) :
    roundWithAccuracy Format.binary64 s m e .exact =
      if zero : halfEven m (target m e - e).toNat = 0 then .zero s
      else if halfEven m (target m e - e).toNat < 2 ^ 53 then
        .finite s (halfEven m (target m e - e).toNat) (target m e) (Nat.pos_of_ne_zero zero)
      else .finite s (2 ^ 52) (target m e + 1) (Nat.two_pow_pos 52) := by
  have least : -1074 ≤ target m e := le_max_right _ _
  have exponent : e + (target m e - e).toNat = target m e := by omega
  have first : shiftToTargetExponent Format.binary64 m e .exact =
      (ExtendedMantissa.ofMantissaAndAccuracy m .exact >>> (target m e - e).toNat, target m e) := by
    rw [shiftToTargetExponent, targetExponent_eq, shiftToExponent, exponent]
  simp only [roundWithAccuracy, first, roundedMantissa_shift, shiftToTargetExponent_of_le short least]
  by_cases below : halfEven m (target m e - e).toNat < 2 ^ 53
  · simp only [if_pos below]
    rfl
  · have nonzero : halfEven m (target m e - e).toNat ≠ 0 := by omega
    simp only [if_neg below, dif_neg nonzero]
    rfl

/-! ### Packing -/

/-- What lies beyond the finite doubles is infinite. -/
def saturated (v : ℕ) : ℕ := if v < limit then v else 2 * limit

theorem saturated_mono {v w : ℕ} (h : v ≤ w) : saturated v ≤ saturated w := by
  unfold saturated
  split_ifs <;> omega

theorem pack_finite (s : Sign) {m : ℕ} {e : ℤ} (positive : 0 < m) :
    pack Format.binary64 (.finite s m e positive) =
      if 2 ^ 11 ≤ (e + 1023 + 52).toNat + 1 then packedInfinity Format.binary64 s
      else if m.log2 + 1 = 53 then
        packComponents Format.binary64 s (BitVec.ofNat _ (e + 1023 + 52).toNat) (BitVec.ofNat _ m)
      else packComponents Format.binary64 s 0#_ (BitVec.ofNat _ m) := rfl

/-- All fifty-three bits: the exponent is stored, and the mantissa without its first bit. -/
theorem repack_normal (s : Sign) {m : ℕ} {e : ℤ} (positive : 0 < m) (short : m < 2 ^ 53) (full : 2 ^ 52 ≤ m)
    (least : -1074 ≤ e) (greatest : e ≤ 971) : repack (.finite s m e positive) = .finite s m e positive := by
  have log : m.log2 = 52 := (Nat.log2_eq_iff positive.ne').2 ⟨full, short⟩
  have field : (BitVec.ofNat 11 (e + 1023 + 52).toNat).toNat = (e + 1075).toNat := by
    rw [BitVec.toNat_ofNat, Nat.mod_eq_of_lt (by omega)]
    omega
  have fraction : (1#1 ++ BitVec.ofNat 52 m).toNat = m := by
    rw [toNat_one_append, BitVec.toNat_ofNat]
    omega
  have finite : BitVec.ofNat 11 (e + 1023 + 52).toNat ≠ -1#11 := fun h => by
    have stored := congrArg BitVec.toNat h
    rw [field] at stored
    change (e + 1075).toNat = 2047 at stored
    omega
  have normal : BitVec.ofNat 11 (e + 1023 + 52).toNat ≠ 0#11 := fun h => by
    have stored := congrArg BitVec.toNat h
    rw [field] at stored
    change (e + 1075).toNat = 0 at stored
    omega
  rw [repack, pack_finite, if_neg (by omega), if_pos (by omega), unpack]
  simp only [unpackExponent_packComponents, unpackMantissa_packComponents, unpackSign_packComponents,
    Sign.ofBitVec_toBitVec]
  rw [if_neg finite, if_neg normal]
  simp only [fraction, field]
  congr 1
  show ((e + 1075).toNat : ℤ) - 1075 = e
  omega

/-- Fewer bits at the least exponent: the mantissa is stored whole. -/
theorem repack_subnormal (s : Sign) {m : ℕ} (positive : 0 < m) (short : m < 2 ^ 52) :
    repack (.finite s m (-1074) positive) = .finite s m (-1074) positive := by
  have log : m.log2 < 52 := (Nat.log2_lt positive.ne').2 short
  have fraction : (BitVec.ofNat 52 m).toNat = m := by rw [BitVec.toNat_ofNat, Nat.mod_eq_of_lt short]
  have nonzero : BitVec.ofNat 52 m ≠ 0#52 := fun h => by
    have stored := congrArg BitVec.toNat h
    rw [fraction] at stored
    change m = 0 at stored
    omega
  rw [repack, pack_finite, if_neg (by decide), if_neg (by omega), unpack]
  simp only [unpackExponent_packComponents, unpackMantissa_packComponents, unpackSign_packComponents,
    Sign.ofBitVec_toBitVec]
  rw [if_neg (by decide), if_pos trivial, dif_neg nonzero]
  simp only [fraction]
  rfl

/-- A number of the format is read back as it is, unless its exponent is too large. -/
theorem repack_finite (s : Sign) {m : ℕ} {e : ℤ} (positive : 0 < m) (short : m < 2 ^ 53) (least : -1074 ≤ e)
    (full : 2 ^ 52 ≤ m ∨ e = -1074) :
    repack (.finite s m e positive) = if e ≤ 971 then .finite s m e positive else .infinity s := by
  by_cases finite : e ≤ 971
  · rw [if_pos finite]
    by_cases normal : 2 ^ 52 ≤ m
    · exact repack_normal s positive short normal least finite
    · obtain rfl : e = -1074 := full.resolve_left normal
      exact repack_subnormal s positive (Nat.lt_of_not_le normal)
  · rw [if_neg finite, repack, pack_finite, if_pos (by omega)]
    cases s <;> rfl

/-- The units of a number that is read back: those that it had, or infinitely many. -/
theorem toUnits_repack_finite (s : Sign) {m : ℕ} {e : ℤ} (positive : 0 < m) (short : m < 2 ^ 53) (least : -1074 ≤ e)
    (full : 2 ^ 52 ≤ m ∨ e = -1074) :
    toUnits (repack (.finite s m e positive)) = s.apply (saturated (m * 2 ^ (e + 1074).toNat) : ℕ) := by
  rw [repack_finite s positive short least full]
  by_cases finite : e ≤ 971
  · rw [if_pos finite, saturated, if_pos (Canonical.lt_limit ⟨short, least, finite, full⟩)]
    rfl
  · have normal : 2 ^ 52 ≤ m := full.resolve_right (by omega)
    have beyond : limit ≤ m * 2 ^ (e + 1074).toNat :=
      calc limit ≤ 2 ^ (52 + (e + 1074).toNat) := limit_le_pow (by omega)
        _ = 2 ^ 52 * 2 ^ (e + 1074).toNat := pow_add 2 52 _
        _ ≤ m * 2 ^ (e + 1074).toNat := Nat.mul_le_mul_right _ normal
    rw [if_neg finite, saturated, if_neg (by omega)]
    rfl

/-- The units of an exact result `m * 2 ^ e`, rounded and packed. The result is given as a whole number of units
divided by `2 ^ least`. -/
theorem toUnits_repack_round (s : Sign) {m : ℕ} {e : ℤ} (positive : 0 < m) (least : ℕ) (coarser : e ≤ target m e)
    (small : -1074 - least ≤ e) :
    toUnits (repack (roundWithAccuracy Format.binary64 s m e .exact)) =
      s.apply (saturated (rounded least (m * 2 ^ (e + 1074 + least).toNat)) : ℕ) := by
  have drop : dropped least (m * 2 ^ (e + 1074 + least).toNat) = (target m e - e).toNat + (e + 1074 + least).toNat := by
    rw [dropped, log2_mul_pow _ positive.ne']
    unfold target at coarser ⊢
    omega
  have short := halfEven_dropped_le least (m * 2 ^ (e + 1074 + least).toNat)
  have full := @le_halfEven_dropped least (m * 2 ^ (e + 1074 + least).toNat)
  rw [drop, halfEven_mul_pow] at short full
  have scale : (target m e - e).toNat + (e + 1074 + least).toNat - least = (target m e + 1074).toNat := by omega
  have bottom : -1074 ≤ target m e := le_max_right _ _
  rw [rounded, drop, halfEven_mul_pow, scale, roundWithAccuracy_eq s coarser short]
  generalize halfEven m (target m e - e).toNat = r at short full ⊢
  by_cases zero : r = 0
  · rw [dif_pos zero, zero, Nat.zero_mul, saturated, if_pos limit_pos]
    cases s <;> rfl
  rw [dif_neg zero]
  by_cases below : r < 2 ^ 53
  · rw [if_pos below]
    exact toUnits_repack_finite s _ below bottom (by omega)
  · obtain rfl : r = 2 ^ 53 := by omega
    have carried : 2 ^ 53 * 2 ^ (target m e + 1074).toNat = 2 ^ 52 * 2 ^ (target m e + 1 + 1074).toNat := by
      rw [show (target m e + 1 + 1074).toNat = (target m e + 1074).toNat + 1 by omega]
      ring
    rw [if_neg below, carried]
    exact toUnits_repack_finite s _ (by decide) (by omega) (.inl (le_refl _))

/-! ### Rounded units -/

/-- A whole number of units divided by `2 ^ least`, rounded to units of a double. The sign plays no part in it. -/
def roundedUnits (least : ℕ) (u : ℤ) : ℤ :=
  if u < 0 then -(saturated (rounded least u.natAbs) : ℤ) else (saturated (rounded least u.natAbs) : ℤ)

theorem saturated_rounded_zero (least : ℕ) : saturated (rounded least 0) = 0 := by
  rw [rounded_zero, saturated, if_pos limit_pos]

theorem natAbs_apply (s : Sign) (n : ℕ) : (s.apply (n : ℤ)).natAbs = n := by
  cases s
  · exact (Int.natAbs_neg _).trans (Int.natAbs_natCast n)
  · exact Int.natAbs_natCast n

theorem roundedUnits_apply (least : ℕ) (s : Sign) (n : ℕ) :
    roundedUnits least (s.apply (n : ℤ)) = s.apply (saturated (rounded least n) : ℤ) := by
  rw [roundedUnits, natAbs_apply]
  rcases Nat.eq_zero_or_pos n with rfl | positive
  · rw [saturated_rounded_zero]
    cases s <;> rfl
  · cases s with
    | negative => exact if_pos (show -(n : ℤ) < 0 by omega)
    | positive => exact if_neg (show ¬ (n : ℤ) < 0 by omega)

theorem roundedUnits_zero (least : ℕ) : roundedUnits least 0 = 0 := by
  rw [roundedUnits, if_neg (lt_irrefl 0), Int.natAbs_zero, saturated_rounded_zero, Nat.cast_zero]

/-- Rounding to units keeps the order. -/
theorem roundedUnits_mono (least : ℕ) {u v : ℤ} (h : u ≤ v) : roundedUnits least u ≤ roundedUnits least v := by
  unfold roundedUnits
  split_ifs with negative negative'
  · have reversed := saturated_mono (rounded_mono least (show v.natAbs ≤ u.natAbs by omega))
    omega
  · omega
  · omega
  · have kept := saturated_mono (rounded_mono least (show u.natAbs ≤ v.natAbs by omega))
    omega

theorem roundedUnits_nonneg (least : ℕ) {u : ℤ} (h : 0 ≤ u) : 0 ≤ roundedUnits least u := by
  rw [roundedUnits, if_neg (by omega)]
  exact Int.natCast_nonneg _

/-- At most fifty-three bits followed by zeros, and below the limit: nothing is rounded. -/
theorem roundedUnits_of_short (s : Sign) {m k : ℕ} (short : m ≤ 2 ^ 53) (below : m * 2 ^ k < limit) :
    roundedUnits 0 (s.apply (m * 2 ^ k : ℕ)) = s.apply (m * 2 ^ k : ℕ) := by
  rw [roundedUnits_apply, rounded_of_short k short, saturated, if_pos below]

/-- From the limit on everything is rounded to infinity. -/
theorem roundedUnits_of_limit_le (s : Sign) {n : ℕ} (beyond : limit ≤ n) :
    roundedUnits 0 (s.apply (n : ℤ)) = s.apply (2 * limit : ℕ) := by
  have kept : rounded 0 limit = limit := by
    have exact := rounded_of_short (m := 1) limitExponent (by decide)
    rwa [Nat.one_mul] at exact
  have above := rounded_mono 0 beyond
  rw [roundedUnits_apply, saturated, if_neg (by omega)]

/-! ### Sums -/

/-- An exact result is rounded after its exponent has been made small enough. -/
theorem toUnits_repack_round_natural (s : Sign) {m : ℕ} {e : ℤ} (positive : 0 < m) (least : -1074 ≤ e) :
    toUnits (repack (UnpackedFloat.round Format.binary64 s m e)) = roundedUnits 0 (s.apply (m * 2 ^ (e + 1074).toNat : ℕ)) := by
  have bottom : -1074 ≤ target m e := le_max_right _ _
  have same : target (m * 2 ^ (e - target m e).toNat) (e - (e - target m e).toNat) = target m e := by
    rw [target, log2_mul_pow _ positive.ne']
    unfold target
    omega
  have opened : UnpackedFloat.round Format.binary64 s m e = roundWithAccuracy Format.binary64 s (m * 2 ^ (e - target m e).toNat)
      (e - (e - target m e).toNat) .exact := by
    simp only [UnpackedFloat.round, targetExponent_eq, decreaseExponent, Nat.shiftLeft_eq]
  have scaled : m * 2 ^ (e - target m e).toNat * 2 ^ (e - (e - target m e).toNat + 1074 + (0 : ℕ)).toNat =
      m * 2 ^ (e + 1074).toNat := by
    rw [mul_assoc, ← pow_add]
    congr 2
    omega
  rw [opened, toUnits_repack_round s (scaled_pos positive _) 0 (by omega) (by omega), scaled, roundedUnits_apply]

/-- A mantissa and an exponent are packed into the double with the rounded units. -/
theorem toUnits_repack_normalize (m : ℤ) {e : ℤ} (zeroSign : Sign) (least : -1074 ≤ e) :
    toUnits (repack (UnpackedFloat.normalize Format.binary64 m e zeroSign)) =
      roundedUnits 0 (m * 2 ^ (e + 1074).toNat) := by
  rcases Int.lt_trichotomy m 0 with below | rfl | above
  · have sign : Sign.negative.apply ((-m).toNat * 2 ^ (e + 1074).toNat : ℕ) = m * 2 ^ (e + 1074).toNat := by
      push_cast
      rw [Int.toNat_of_nonneg (by omega)]
      show -(-m * _) = _
      ring
    simp only [UnpackedFloat.normalize, compare_lt_iff_lt.2 below]
    rw [toUnits_repack_round_natural _ (by omega) least, sign]
  · have even : compare (0 : ℤ) 0 = .eq := rfl
    simp only [UnpackedFloat.normalize, even]
    rw [zero_mul, roundedUnits_zero]
    cases zeroSign <;> rfl
  · have sign : Sign.positive.apply (m.toNat * 2 ^ (e + 1074).toNat : ℕ) = m * 2 ^ (e + 1074).toNat := by
      push_cast
      rw [Int.toNat_of_nonneg (by omega)]
      rfl
    simp only [UnpackedFloat.normalize, compare_gt_iff_gt.2 above]
    rw [toUnits_repack_round_natural _ (by omega) least, sign]

/-- The units of a double are not rounded. -/
theorem roundedUnits_units (x : Float) : roundedUnits 0 (units x) = units x := by
  unfold units
  cases form : unpacked x with
  | notANumber => exact roundedUnits_zero 0
  | infinity s => exact roundedUnits_of_limit_le s (by omega)
  | zero s => exact roundedUnits_zero 0
  | finite s m e hm =>
    have canonical := canonical_of_unpacked form
    exact roundedUnits_of_short s canonical.short.le canonical.lt_limit

/-- Packing what was unpacked changes nothing. -/
theorem repack_unpacked (x : Float) : repack (unpacked x) = unpacked x :=
  congrArg (unpack Format.binary64) (pack_unpack_of_valid x.toModel.valid)

/-- A sum with an infinity stays beyond the limit. -/
theorem roundedUnits_infinite_add (s : Sign) {u : ℤ} (small : u.natAbs < limit) :
    roundedUnits 0 (s.apply (2 * limit : ℕ) + u) = s.apply (2 * limit : ℕ) := by
  cases s with
  | negative =>
    have total : (Sign.negative.apply (2 * limit : ℕ)) + u = Sign.negative.apply (2 * limit - u : ℤ).toNat := by
      show -((2 * limit : ℕ) : ℤ) + u = -((2 * limit - u : ℤ).toNat : ℤ)
      omega
    rw [total, roundedUnits_of_limit_le]
    omega
  | positive =>
    have total : (Sign.positive.apply (2 * limit : ℕ)) + u = Sign.positive.apply (2 * limit + u : ℤ).toNat := by
      show ((2 * limit : ℕ) : ℤ) + u = ((2 * limit + u : ℤ).toNat : ℤ)
      omega
    rw [total, roundedUnits_of_limit_le]
    omega

theorem natAbs_units_lt {x : Float} (finite : ∀ s, unpacked x ≠ .infinity s) : (units x).natAbs < limit := by
  unfold units
  cases form : unpacked x with
  | notANumber => exact limit_pos
  | infinity s => exact absurd form (finite s)
  | zero s => exact limit_pos
  | finite s m e hm =>
    rw [toUnits, natAbs_apply]
    exact (canonical_of_unpacked form).lt_limit

/-- A sum that is not rounded, because one operand is zero. -/
theorem toUnits_repack_unpacked (x : Float) : toUnits (repack (unpacked x)) = roundedUnits 0 (units x) := by
  rw [repack_unpacked, roundedUnits_units]
  rfl

/-- The sum of two finite numbers. -/
theorem toUnits_repack_add_finite {s t : Sign} {m n : ℕ} {e d : ℤ} (positive : 0 < m) (positive' : 0 < n)
    (least : -1074 ≤ e) (least' : -1074 ≤ d) :
    toUnits (repack (add Format.binary64 (.finite s m e positive) (.finite t n d positive'))) =
      roundedUnits 0 (toUnits (.finite s m e positive) + toUnits (.finite t n d positive')) := by
  -- both mantissas are brought to the smaller exponent, which changes neither number of units
  have scaled : ∀ (r : Sign) (k : ℕ) (c : ℤ), min e d ≤ c →
      r.apply (k * 2 ^ (c - min e d).toNat : ℕ) * 2 ^ (min e d + 1074).toNat = r.apply (k * 2 ^ (c + 1074).toNat : ℕ) := by
    intro r k c le
    have exponent : (c - min e d).toNat + (min e d + 1074).toNat = (c + 1074).toNat := by omega
    rw [← exponent, pow_add]
    cases r <;> simp only [Sign.apply] <;> push_cast <;> ring
  have opened : add Format.binary64 (.finite s m e positive) (.finite t n d positive') =
      UnpackedFloat.normalize Format.binary64
        (s.apply (m * 2 ^ (e - min e d).toNat : ℕ) + t.apply (n * 2 ^ (d - min e d).toNat : ℕ)) (min e d) .positive := by
    simp only [add, decreaseExponent, Nat.shiftLeft_eq]
  rw [opened, toUnits_repack_normalize _ _ (by omega), add_mul, scaled s m e (min_le_left e d),
    scaled t n d (min_le_right e d)]
  rfl

/-- The sum of an infinity and a number that is not infinite. -/
theorem toUnits_repack_infinity {x : Float} (s : Sign) (finite : ∀ s, unpacked x ≠ .infinity s) :
    toUnits (repack (.infinity s)) = roundedUnits 0 (toUnits (.infinity s) + units x) := by
  rw [toUnits, roundedUnits_infinite_add s (natAbs_units_lt finite)]
  cases s <;> rfl

/-- The sum of two infinities with one sign. -/
theorem toUnits_repack_infinity_twice (s : Sign) :
    toUnits (repack (.infinity s)) = roundedUnits 0 (toUnits (.infinity s) + toUnits (.infinity s)) := by
  have total : (s.apply (2 * limit : ℕ) : ℤ) + s.apply (2 * limit : ℕ) = s.apply (2 * (2 * limit) : ℕ) := by
    cases s <;> simp only [Sign.apply] <;> push_cast <;> ring
  rw [toUnits, total, roundedUnits_of_limit_le s (by omega)]
  cases s <;> rfl

/-- An infinite summand stays, if the sum is defined. -/
theorem add_infinity {f : UnpackedFloat} (s : Sign) (defined : (add Format.binary64 (.infinity s) f).isNaN = false) :
    add Format.binary64 (.infinity s) f = .infinity s := by
  cases f with
  | notANumber => cases defined
  | infinity t => cases s <;> cases t <;> first | rfl | cases defined
  | zero t => rfl
  | finite t n d hn => rfl

theorem infinity_add {f : UnpackedFloat} (s : Sign) (defined : (add Format.binary64 f (.infinity s)).isNaN = false) :
    add Format.binary64 f (.infinity s) = .infinity s := by
  cases f with
  | notANumber => cases defined
  | infinity t => cases s <;> cases t <;> first | rfl | cases defined
  | zero t => rfl
  | finite t n d hn => rfl

/-- The sum of two numbers neither of which is infinite. -/
theorem toUnits_repack_add {x y : Float} (defined : (add Format.binary64 (unpacked x) (unpacked y)).isNaN = false)
    (finite : ∀ s, unpacked x ≠ .infinity s) (finite' : ∀ s, unpacked y ≠ .infinity s) :
    toUnits (repack (add Format.binary64 (unpacked x) (unpacked y))) = roundedUnits 0 (units x + units y) := by
  cases form : unpacked x with
  | notANumber => rw [form] at defined; cases defined
  | infinity s => exact absurd form (finite s)
  | zero s =>
    have none : units x = 0 := by rw [units, form, toUnits]
    cases form' : unpacked y with
    | notANumber => rw [form, form'] at defined; cases defined
    | infinity t => exact absurd form' (finite' t)
    | zero t =>
      have none' : units y = 0 := by rw [units, form', toUnits]
      rw [none, none', add_zero, roundedUnits_zero]
      cases s <;> cases t <;> rfl
    | finite t n d hn =>
      rw [none, zero_add, ← toUnits_repack_unpacked, form']
      rfl
  | finite s m e hm =>
    cases form' : unpacked y with
    | notANumber => rw [form, form'] at defined; cases defined
    | infinity t => exact absurd form' (finite' t)
    | zero t =>
      have none' : units y = 0 := by rw [units, form', toUnits]
      rw [none', add_zero, ← toUnits_repack_unpacked, form]
      rfl
    | finite t n d hn =>
      rw [units, units, form, form']
      exact toUnits_repack_add_finite hm hn (canonical_of_unpacked form).least (canonical_of_unpacked form').least

/-- The units of a defined sum are the sum of the units, rounded. -/
theorem units_add {x y : Float} (defined : (x + y).isNaN = false) :
    units (x + y) = roundedUnits 0 (units x + units y) := by
  have number : (repack (add Format.binary64 (unpacked x) (unpacked y))).isNaN = false := defined
  rw [isNaN_repack] at number
  show toUnits (repack (add Format.binary64 (unpacked x) (unpacked y))) = _
  by_cases infinite : ∃ s, unpacked x = .infinity s
  · obtain ⟨s, form⟩ := infinite
    rw [form] at number ⊢
    by_cases infinite' : ∃ t, unpacked y = .infinity t
    · obtain ⟨t, form'⟩ := infinite'
      obtain rfl : s = t := by
        rw [form'] at number
        cases s <;> cases t <;> first | rfl | cases number
      rw [add_infinity s number, units, units, form, form']
      exact toUnits_repack_infinity_twice s
    · rw [add_infinity s number, toUnits_repack_infinity s (not_exists.1 infinite'), units, units, form]
  · by_cases infinite' : ∃ t, unpacked y = .infinity t
    · obtain ⟨t, form'⟩ := infinite'
      rw [form'] at number ⊢
      rw [infinity_add t number, toUnits_repack_infinity t (not_exists.1 infinite), add_comm, units, units, form']
    · exact toUnits_repack_add number (not_exists.1 infinite) (not_exists.1 infinite')

theorem isNaN_normalize (m e : ℤ) (zeroSign : Sign) :
    (UnpackedFloat.normalize Format.binary64 m e zeroSign).isNaN = false := by
  simp only [UnpackedFloat.normalize, UnpackedFloat.round, roundWithAccuracy]
  split
  · split <;> rfl
  · rfl
  · split <;> rfl

/-- Only infinities of opposite signs have no sum. -/
theorem isNaN_add_unpacked {f g : UnpackedFloat} (defined : f.isNaN = false) (defined' : g.isNaN = false)
    (apart : ∀ s t, f = .infinity s → g = .infinity t → s = t) : (add Format.binary64 f g).isNaN = false := by
  cases f with
  | notANumber => cases defined
  | infinity s =>
    cases g with
    | notANumber => cases defined'
    | infinity t =>
      obtain rfl := apart s t rfl rfl
      cases s <;> rfl
    | zero t => rfl
    | finite t n d hn => rfl
  | zero s =>
    cases g with
    | notANumber => cases defined'
    | infinity t => rfl
    | zero t => cases s <;> cases t <;> rfl
    | finite t n d hn => rfl
  | finite s m e hm =>
    cases g with
    | notANumber => cases defined'
    | infinity t => rfl
    | zero t => rfl
    | finite t n d hn => exact isNaN_normalize ..

theorem positive_of_infinite {x : Float} {s : Sign} (form : unpacked x = .infinity s) (h : 0 ≤ units x) : s = .positive := by
  cases s with
  | positive => rfl
  | negative =>
    rw [units, form, toUnits] at h
    change 0 ≤ -((2 * limit : ℕ) : ℤ) at h
    have := limit_pos
    omega

/-- A sum of defined doubles that are not negative is defined. -/
theorem isNaN_add_of_nonneg {x y : Float} (defined : x.isNaN = false) (defined' : y.isNaN = false) (h : 0 ≤ units x)
    (h' : 0 ≤ units y) : (x + y).isNaN = false := by
  show (repack (add Format.binary64 (unpacked x) (unpacked y))).isNaN = false
  rw [isNaN_repack]
  refine isNaN_add_unpacked defined defined' fun s t form form' => ?_
  rw [positive_of_infinite form h, positive_of_infinite form' h']

/-- A sum of doubles that are not negative is not negative, if it is defined. -/
theorem units_add_nonneg {x y : Float} (defined : (x + y).isNaN = false) (h : 0 ≤ units x) (h' : 0 ≤ units y) :
    0 ≤ units (x + y) := by
  rw [units_add defined]
  exact roundedUnits_nonneg 0 (by omega)

/-- Defined sums are monotone. -/
theorem units_add_le {x y x' y' : Float} (defined : (x + x').isNaN = false) (defined' : (y + y').isNaN = false)
    (h : units x ≤ units y) (h' : units x' ≤ units y') : units (x + x') ≤ units (y + y') := by
  rw [units_add defined, units_add defined']
  exact roundedUnits_mono 0 (by omega)

/-- A sum with a double that is not negative is not less. -/
theorem units_le_add {x y : Float} (defined : (x + y).isNaN = false) (h : 0 ≤ units y) : units x ≤ units (x + y) := by
  rw [units_add defined]
  calc units x = roundedUnits 0 (units x) := (roundedUnits_units x).symm
    _ ≤ roundedUnits 0 (units x + units y) := roundedUnits_mono 0 (by omega)

/-! ### Products -/

theorem toUnits_repack_zero (s : Sign) : toUnits (repack (.zero s)) = 0 := by cases s <;> rfl

/-- A product of numbers of the format has digits below its last place. -/
theorem le_target_mul {m n : ℕ} {e d : ℤ} (positive : 0 < m) (positive' : 0 < n) (c : Canonical m e) (c' : Canonical n d) :
    e + d ≤ target (m * n) (e + d) := by
  by_cases full : 2 ^ 52 ≤ m * n
  · have log : 52 ≤ (m * n).log2 := (Nat.le_log2 (Nat.mul_pos positive positive').ne').2 full
    unfold target
    omega
  · have first : m ≤ m * n := Nat.le_mul_of_pos_right m positive'
    have second : n ≤ m * n := Nat.le_mul_of_pos_left n positive
    have exponent : e = -1074 := c.full.resolve_left (by omega)
    have exponent' : d = -1074 := c'.full.resolve_left (by omega)
    unfold target
    omega

theorem apply_mul (s t : Sign) (a b : ℕ) : ((s * t).apply (a * b : ℕ) : ℤ) = s.apply (a : ℤ) * t.apply (b : ℤ) := by
  rw [Nat.cast_mul]
  cases s with
  | negative =>
    cases t with
    | negative => exact (neg_mul_neg (a : ℤ) b).symm
    | positive => exact (neg_mul (a : ℤ) b).symm
  | positive =>
    cases t with
    | negative => exact (mul_neg (a : ℤ) b).symm
    | positive => rfl

/-- The product of two finite numbers. -/
theorem toUnits_repack_mul_finite {s t : Sign} {m n : ℕ} {e d : ℤ} (positive : 0 < m) (positive' : 0 < n)
    (c : Canonical m e) (c' : Canonical n d) :
    toUnits (repack (mul Format.binary64 (.finite s m e positive) (.finite t n d positive'))) =
      roundedUnits 1074 (toUnits (.finite s m e positive) * toUnits (.finite t n d positive')) := by
  have least := c.least
  have least' := c'.least
  have scale : (e + d + 1074 + (1074 : ℕ)).toNat = (e + 1074).toNat + (d + 1074).toNat := by omega
  have product : m * n * 2 ^ ((e + 1074).toNat + (d + 1074).toNat) =
      m * 2 ^ (e + 1074).toNat * (n * 2 ^ (d + 1074).toNat) := by ring
  have opened : mul Format.binary64 (.finite s m e positive) (.finite t n d positive') =
      roundWithAccuracy Format.binary64 (s * t) (m * n) (e + d) .exact := rfl
  rw [opened, toUnits_repack_round (s * t) (Nat.mul_pos positive positive') 1074 (le_target_mul positive positive' c c')
    (by omega), scale, product, ← roundedUnits_apply, apply_mul]
  rfl

/-- The units of a product of finite doubles are the product of the units, rounded at the scale of the format. -/
theorem units_mul {x y : Float} (finite : x.isFinite = true) (finite' : y.isFinite = true) :
    units (x * y) = roundedUnits 1074 (units x * units y) := by
  have number : (unpacked x).isFinite = true := finite
  have number' : (unpacked y).isFinite = true := finite'
  show toUnits (repack (mul Format.binary64 (unpacked x) (unpacked y))) = _
  unfold units
  cases form : unpacked x with
  | notANumber => rw [form] at number; cases number
  | infinity s => rw [form] at number; cases number
  | zero s =>
    rw [toUnits, zero_mul, roundedUnits_zero]
    cases form' : unpacked y with
    | notANumber => rw [form'] at number'; cases number'
    | infinity t => rw [form'] at number'; cases number'
    | zero t => exact toUnits_repack_zero (s * t)
    | finite t n d hn => exact toUnits_repack_zero (s * t)
  | finite s m e hm =>
    cases form' : unpacked y with
    | notANumber => rw [form'] at number'; cases number'
    | infinity t => rw [form'] at number'; cases number'
    | zero t =>
      have none : toUnits (.zero t) = 0 := rfl
      rw [none, mul_zero, roundedUnits_zero]
      exact toUnits_repack_zero (s * t)
    | finite t n d hn => exact toUnits_repack_mul_finite hm hn (canonical_of_unpacked form) (canonical_of_unpacked form')

/-! ### Counts -/

theorem unpacked_ofCount (n : ℕ) :
    unpacked (ofCount n) = repack (UnpackedFloat.normalize Format.binary64 n 0 .positive) := rfl

theorem isNaN_ofCount (n : ℕ) : (ofCount n).isNaN = false := by
  show (repack (UnpackedFloat.normalize Format.binary64 n 0 .positive)).isNaN = false
  rw [isNaN_repack, isNaN_normalize]

/-- The double of a count is the count in units, rounded. -/
theorem units_ofCount (n : ℕ) : units (ofCount n) = roundedUnits 0 (n * 2 ^ 1074) := by
  rw [units, unpacked_ofCount, toUnits_repack_normalize _ _ (by omega)]
  rfl

end DensityAudit.Binary64
