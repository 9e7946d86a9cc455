import DensityAudit.Proofs.Doubles.Magnitude

/-!
# Doubles as whole numbers of the least one

Every finite double is a whole number of the least positive double, two to the power of minus 1074. `units` is
that number; an infinity counts as twice the first power of two beyond the finite doubles, so that sums with it
stay beyond them. Doubles that are defined are ordered as their units are (`compare_unpacked`, `le_iff_units`),
and the units of a double other than zero determine it (`eq_of_units`).
-/

namespace DensityAudit.Binary64

open Float.Model (Format UnpackedFloat)
open Float.Model.UnpackedFloat

/-! ### Mantissa and exponent of a finite double -/

/-- The mantissa and the exponent that unpacking gives: all fifty-three bits are used, unless the exponent is the
least one. -/
structure Canonical (m : ℕ) (e : ℤ) : Prop where
  short : m < 2 ^ 53
  least : -1074 ≤ e
  greatest : e ≤ 971
  full : 2 ^ 52 ≤ m ∨ e = -1074

theorem toNat_one_append (fraction : BitVec 52) : (1#1 ++ fraction).toNat = 2 ^ 52 + fraction.toNat := by
  rw [BitVec.toNat_append, ← Nat.shiftLeft_add_eq_or_of_lt fraction.isLt]
  rfl

/-- Unpacking gives a canonical mantissa and exponent. -/
theorem canonical_of_unpacked {x : Float} {s : Sign} {m : ℕ} {e : ℤ} {positive : 0 < m}
    (read : unpacked x = .finite s m e positive) : Canonical m e := by
  have opened : unpacked x = unpack Format.binary64 x.toModel.toBits.toBitVec := rfl
  generalize x.toModel.toBits.toBitVec = bits at opened
  have fraction : (@unpackMantissa Format.binary64 bits).toNat < 2 ^ 52 := BitVec.isLt _
  have exponent : (@unpackExponent Format.binary64 bits).toNat < 2 ^ 11 := BitVec.isLt _
  rw [opened, unpack] at read
  split at read
  · split at read <;> cases read
  · rename_i finite
    have largest : (@unpackExponent Format.binary64 bits).toNat ≠ 2047 := fun h =>
      finite (BitVec.eq_of_toNat_eq h)
    split at read
    · rename_i subnormal
      split at read
      · cases read
      · have zero : (@unpackExponent Format.binary64 bits).toNat = 0 := congrArg BitVec.toNat subnormal
        cases read
        refine ⟨by omega, ?_, ?_, .inr ?_⟩ <;> rw [zero] <;> decide
    · rename_i normal
      have nonzero : (@unpackExponent Format.binary64 bits).toNat ≠ 0 := fun h =>
        normal (BitVec.eq_of_toNat_eq h)
      cases read
      rw [toNat_one_append]
      show Canonical _ ((@unpackExponent Format.binary64 bits).toNat - 1075 : ℤ)
      exact ⟨by omega, by omega, by omega, .inl (by omega)⟩

/-! ### Units -/

/-- The exponent of the first power of two beyond the finite doubles, in units of the least positive one. -/
def limitExponent : ℕ := 2098

/-- The first power of two beyond the finite doubles, in units of the least positive one. -/
def limit : ℕ := 2 ^ limitExponent

/-- The units of an unpacked number; the undefined value has none. -/
def toUnits : UnpackedFloat → ℤ
  | .finite s m e _ => s.apply (m * 2 ^ (e + 1074).toNat : ℕ)
  | .infinity s => s.apply (2 * limit : ℕ)
  | .zero _ => 0
  | .notANumber => 0

/-- A double, counted in units of the least positive one. -/
def units (x : Float) : ℤ := toUnits (unpacked x)

theorem limit_pos : 0 < limit := Nat.two_pow_pos limitExponent

theorem pow_le_limit {k : ℕ} (h : k ≤ 2098) : 2 ^ k ≤ limit := Nat.pow_le_pow_right Nat.zero_lt_two h

theorem limit_le_pow {k : ℕ} (h : 2098 ≤ k) : limit ≤ 2 ^ k := Nat.pow_le_pow_right Nat.zero_lt_two h

namespace Canonical

variable {m n : ℕ} {e d : ℤ}

/-- Of two canonical pairs the one with the smaller exponent is less. -/
theorem lt_of_exponent_lt (c : Canonical m e) (c' : Canonical n d) (h : e < d) :
    m * 2 ^ (e + 1074).toNat < n * 2 ^ (d + 1074).toNat := by
  have least := c.least
  have full : 2 ^ 52 ≤ n := c'.full.resolve_right (by omega)
  calc m * 2 ^ (e + 1074).toNat < 2 ^ 53 * 2 ^ (e + 1074).toNat :=
        Nat.mul_lt_mul_of_pos_right c.short (Nat.two_pow_pos _)
    _ = 2 ^ 52 * 2 ^ ((e + 1074).toNat + 1) := by ring
    _ ≤ 2 ^ 52 * 2 ^ (d + 1074).toNat := Nat.mul_le_mul_left _ (Nat.pow_le_pow_right (by omega) (by omega))
    _ ≤ n * 2 ^ (d + 1074).toNat := Nat.mul_le_mul_right _ full

/-- Canonical pairs are ordered first by the exponent and then by the mantissa. -/
theorem compare_eq (c : Canonical m e) (c' : Canonical n d) :
    compare (m * 2 ^ (e + 1074).toNat) (n * 2 ^ (d + 1074).toNat) = (compare e d).then (compare m n) := by
  rcases lt_trichotomy e d with less | rfl | greater
  · rw [compare_lt_iff_lt.2 less, compare_lt_iff_lt.2 (c.lt_of_exponent_lt c' less)]
    rfl
  · have positive : 0 < 2 ^ (e + 1074).toNat := Nat.two_pow_pos _
    rw [compare_eq_iff_eq.2 rfl]
    show _ = compare m n
    rcases lt_trichotomy m n with below | rfl | above
    · rw [compare_lt_iff_lt.2 below, compare_lt_iff_lt.2 (Nat.mul_lt_mul_of_pos_right below positive)]
    · rw [compare_eq_iff_eq.2 rfl, compare_eq_iff_eq.2 rfl]
    · rw [compare_gt_iff_gt.2 above, compare_gt_iff_gt.2 (Nat.mul_lt_mul_of_pos_right above positive)]
  · rw [compare_gt_iff_gt.2 greater, compare_gt_iff_gt.2 (c'.lt_of_exponent_lt c greater)]
    rfl

theorem lt_limit (c : Canonical m e) : m * 2 ^ (e + 1074).toNat < limit := by
  have greatest := c.greatest
  calc m * 2 ^ (e + 1074).toNat < 2 ^ 53 * 2 ^ (e + 1074).toNat :=
        Nat.mul_lt_mul_of_pos_right c.short (Nat.two_pow_pos _)
    _ = 2 ^ (53 + (e + 1074).toNat) := (pow_add 2 53 _).symm
    _ ≤ limit := pow_le_limit (by omega)

end Canonical

/-! ### Order -/

/-- Numbers with a sign are compared by the sign first. -/
theorem compare_apply (s t : Sign) {m n : ℕ} (positive : 0 < m) (positive' : 0 < n) :
    compare (s.apply (m : ℤ)) (t.apply (n : ℤ)) =
      match s, t with
      | .negative, .negative => (compare m n).swap
      | .negative, .positive => .lt
      | .positive, .negative => .gt
      | .positive, .positive => compare m n := by
  cases s <;> cases t <;> simp only [Sign.apply]
  · rcases lt_trichotomy m n with below | rfl | above
    · rw [compare_lt_iff_lt.2 below]
      exact compare_gt_iff_gt.2 (by omega)
    · rw [compare_eq_iff_eq.2 rfl, compare_eq_iff_eq.2 rfl]
      rfl
    · rw [compare_gt_iff_gt.2 above]
      exact compare_lt_iff_lt.2 (by omega)
  · exact compare_lt_iff_lt.2 (by omega)
  · exact compare_gt_iff_gt.2 (by omega)
  · rcases lt_trichotomy m n with below | rfl | above
    · rw [compare_lt_iff_lt.2 below]
      exact compare_lt_iff_lt.2 (by omega)
    · rw [compare_eq_iff_eq.2 rfl, compare_eq_iff_eq.2 rfl]
    · rw [compare_gt_iff_gt.2 above]
      exact compare_gt_iff_gt.2 (by omega)

theorem compare_apply_zero (s : Sign) {m : ℕ} (positive : 0 < m) :
    compare (s.apply (m : ℤ)) 0 = match s with | .negative => .lt | .positive => .gt := by
  cases s
  · exact compare_lt_iff_lt.2 (by simp only [Sign.apply]; omega)
  · exact compare_gt_iff_gt.2 (by simp only [Sign.apply]; omega)

theorem compare_zero_apply (s : Sign) {m : ℕ} (positive : 0 < m) :
    compare 0 (s.apply (m : ℤ)) = match s with | .negative => .gt | .positive => .lt := by
  cases s
  · exact compare_gt_iff_gt.2 (by simp only [Sign.apply]; omega)
  · exact compare_lt_iff_lt.2 (by simp only [Sign.apply]; omega)

theorem scaled_pos {m : ℕ} (positive : 0 < m) (k : ℕ) : 0 < m * 2 ^ k := Nat.mul_pos positive (Nat.two_pow_pos k)

/-- Defined doubles are compared as their units are. -/
theorem compare_unpacked {x y : Float} (defined : x.isNaN = false) (defined' : y.isNaN = false) :
    (unpacked x).compare (unpacked y) = some (compare (units x) (units y)) := by
  have number : (unpacked x).isNaN = false := defined
  have number' : (unpacked y).isNaN = false := defined'
  have infinite : 0 < 2 * limit := Nat.mul_pos Nat.zero_lt_two limit_pos
  unfold units
  cases form : unpacked x with
  | notANumber => rw [form] at number; cases number
  | infinity s =>
    cases form' : unpacked y with
    | notANumber => rw [form'] at number'; cases number'
    | infinity t =>
      rw [toUnits, toUnits, compare_apply s t infinite infinite, compare_eq_iff_eq.2 rfl]
      cases s <;> cases t <;> rfl
    | zero t =>
      rw [toUnits, toUnits, compare_apply_zero s infinite]
      cases s <;> rfl
    | finite t n d hn =>
      have below := (canonical_of_unpacked form').lt_limit
      rw [toUnits, toUnits, compare_apply s t infinite (scaled_pos hn _), compare_gt_iff_gt.2 (by omega)]
      cases s <;> cases t <;> rfl
  | zero s =>
    cases form' : unpacked y with
    | notANumber => rw [form'] at number'; cases number'
    | infinity t =>
      rw [toUnits, toUnits, compare_zero_apply t infinite]
      cases t <;> rfl
    | zero t => rfl
    | finite t n d hn =>
      rw [toUnits, toUnits, compare_zero_apply t (scaled_pos hn _)]
      cases t <;> rfl
  | finite s m e hm =>
    cases form' : unpacked y with
    | notANumber => rw [form'] at number'; cases number'
    | infinity t =>
      have below := (canonical_of_unpacked form).lt_limit
      rw [toUnits, toUnits, compare_apply s t (scaled_pos hm _) infinite, compare_lt_iff_lt.2 (by omega)]
      cases s <;> cases t <;> rfl
    | zero t =>
      rw [toUnits, toUnits, compare_apply_zero s (scaled_pos hm _)]
      cases s <;> rfl
    | finite t n d hn =>
      rw [toUnits, toUnits, compare_apply s t (scaled_pos hm _) (scaled_pos hn _),
        (canonical_of_unpacked form).compare_eq (canonical_of_unpacked form')]
      cases s <;> cases t <;> rfl

/-- An undefined double is not compared. -/
theorem defined_of_compare {x y : Float} {o : Ordering} (h : (unpacked x).compare (unpacked y) = some o) :
    x.isNaN = false ∧ y.isNaN = false := by
  show (unpacked x).isNaN = false ∧ (unpacked y).isNaN = false
  cases form : unpacked x <;> cases form' : unpacked y <;> rw [form, form'] at h <;>
    first | exact ⟨rfl, rfl⟩ | cases h

/-- One double is at most another iff both are defined and their units are in this order. -/
theorem le_iff_units {x y : Float} : x ≤ y ↔ x.isNaN = false ∧ y.isNaN = false ∧ units x ≤ units y := by
  rw [le_iff, UnpackedFloat.le]
  constructor
  · intro h
    cases compared : (unpacked x).compare (unpacked y) with
    | none => rw [compared] at h; cases h
    | some o =>
      obtain ⟨defined, defined'⟩ := defined_of_compare compared
      rw [compare_unpacked defined defined'] at h
      exact ⟨defined, defined', compare_le_iff_le.1 (Ordering.isLE_iff_ne_gt.1 h)⟩
  · rintro ⟨defined, defined', h⟩
    rw [compare_unpacked defined defined']
    exact Ordering.isLE_iff_ne_gt.2 (compare_le_iff_le.2 h)

theorem beq_iff_units {x y : Float} (defined : x.isNaN = false) (defined' : y.isNaN = false) :
    x == y ↔ units x = units y := by
  rw [beq_iff, UnpackedFloat.beq, compare_unpacked defined defined', beq_iff_eq, Option.some.injEq, compare_eq_iff_eq]

/-- The units of a double other than zero determine it. -/
theorem eq_of_units {x y : Float} (defined : x.isNaN = false) (defined' : y.isNaN = false) (same : units x = units y)
    (nonzero : units x ≠ 0) : x = y := by
  have equal := (beq_iff_units defined defined').2 same
  rcases (Float.beq_iff_ne_nan_and_eq.1 equal).2.2 with same | ⟨rfl, -⟩ | ⟨rfl, -⟩
  · exact same
  · exact absurd (by decide +kernel) nonzero
  · exact absurd (by decide +kernel) nonzero

end DensityAudit.Binary64
