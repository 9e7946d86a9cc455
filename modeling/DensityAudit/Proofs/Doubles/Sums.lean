import DensityAudit.Proofs.Doubles.Arithmetic

/-!
# Running sums of doubles

Rounded addition and multiplication are monotone (`add_le_add`, `mul_self_le_mul_self`), as is the double of a
count (`ofCount_le_ofCount`). A running sum of values that are not negative therefore does not shrink when values
grow or more of them are taken (`foldl_filter_le_foldl_filter`). Counts up to two to the power of fifty-three are
doubles themselves, so a running sum of such counts is the double of their sum (`foldl_add_ofCount`).
-/

namespace DensityAudit.Binary64

variable {x y z : Float}

/-! ### Order -/

theorem units_zero : units 0.0 = 0 := by rw [units, unpacked_zero, toUnits]

theorem zero_le_iff : 0.0 ≤ x ↔ x.isNaN = false ∧ 0 ≤ units x := by
  have defined : Float.isNaN 0.0 = false := by decide +kernel
  rw [le_iff_units, units_zero, and_iff_right defined]

theorem le_refl (defined : x.isNaN = false) : x ≤ x := le_iff_units.2 ⟨defined, defined, Int.le_refl _⟩

theorem le_trans (h : x ≤ y) (h' : y ≤ z) : x ≤ z := by
  rw [le_iff_units] at *
  exact ⟨h.1, h'.2.1, h.2.2.trans h'.2.2⟩

instance transLe : @Trans Float Float Float (· ≤ ·) (· ≤ ·) (· ≤ ·) := ⟨le_trans⟩

theorem zero_le_zero : (0.0 : Float) ≤ 0.0 := by decide +kernel

/-- One double is below another iff both are defined and their units are in this order. -/
theorem lt_iff_units : x < y ↔ x.isNaN = false ∧ y.isNaN = false ∧ units x < units y := by
  have less : x < y ↔ (unpacked x).lt (unpacked y) = true := decide_eq_true_iff
  rw [less, Float.Model.UnpackedFloat.lt, beq_iff_eq]
  constructor
  · intro compared
    obtain ⟨defined, defined'⟩ := defined_of_compare compared
    rw [compare_unpacked defined defined', Option.some.injEq, compare_lt_iff_lt] at compared
    exact ⟨defined, defined', compared⟩
  · rintro ⟨defined, defined', h⟩
    rw [compare_unpacked defined defined', compare_lt_iff_lt.2 h]

theorem lt_of_lt_of_le (h : x < y) (h' : y ≤ z) : x < z := by
  rw [lt_iff_units] at *
  rw [le_iff_units] at h'
  exact ⟨h.1, h'.2.1, Int.lt_of_lt_of_le h.2.2 h'.2.2⟩

/-- Defined doubles are ordered one way or the other. -/
theorem le_of_not_lt (defined : x.isNaN = false) (defined' : y.isNaN = false) (h : ¬ y < x) : x ≤ y := by
  rw [lt_iff_units] at h
  exact le_iff_units.2 ⟨defined, defined', Int.not_lt.1 fun less => h ⟨defined', defined, less⟩⟩

/-! ### Sums and products -/

/-- Sums of doubles that are not negative are not negative. -/
theorem add_nonneg (h : 0.0 ≤ x) (h' : 0.0 ≤ y) : 0.0 ≤ x + y := by
  rw [zero_le_iff] at *
  have defined := isNaN_add_of_nonneg h.1 h'.1 h.2 h'.2
  exact ⟨defined, units_add_nonneg defined h.2 h'.2⟩

/-- Sums of doubles that are not negative are monotone. -/
theorem add_le_add {x' y' : Float} (nonneg : 0.0 ≤ x) (nonneg' : 0.0 ≤ x') (h : x ≤ y) (h' : x' ≤ y') :
    x + x' ≤ y + y' := by
  have least := zero_le_iff.1 (add_nonneg nonneg nonneg')
  have most := zero_le_iff.1 (add_nonneg (le_trans nonneg h) (le_trans nonneg' h'))
  exact le_iff_units.2 ⟨least.1, most.1, units_add_le least.1 most.1 (le_iff_units.1 h).2.2 (le_iff_units.1 h').2.2⟩

/-- One more term that is not negative does not make a sum less. -/
theorem le_add (nonneg : 0.0 ≤ x) (nonneg' : 0.0 ≤ y) : x ≤ x + y := by
  have most := zero_le_iff.1 (add_nonneg nonneg nonneg')
  exact le_iff_units.2 ⟨(zero_le_iff.1 nonneg).1, most.1, units_le_add most.1 (zero_le_iff.1 nonneg').2⟩

/-- Squares of finite doubles that are not negative are monotone. -/
theorem mul_self_le_mul_self (finite : x.isFinite = true) (finite' : y.isFinite = true) (nonneg : 0.0 ≤ x) (h : x ≤ y) :
    x * x ≤ y * y := by
  have least := zero_le_iff.1 (zero_le_square (isNaN_of_isFinite finite))
  have most := zero_le_iff.1 (zero_le_square (isNaN_of_isFinite finite'))
  have nonneg := (zero_le_iff.1 nonneg).2
  have h := (le_iff_units.1 h).2.2
  have squares : units x * units x ≤ units y * units y := Int.mul_le_mul h h nonneg (nonneg.trans h)
  refine le_iff_units.2 ⟨least.1, most.1, ?_⟩
  rw [units_mul finite finite, units_mul finite' finite']
  exact roundedUnits_mono 1074 squares

/-! ### Counts -/

/-- The doubles of counts are in their order. -/
theorem ofCount_le_ofCount {m n : ℕ} (h : m ≤ n) : ofCount m ≤ ofCount n := by
  refine le_iff_units.2 ⟨isNaN_ofCount m, isNaN_ofCount n, ?_⟩
  rw [units_ofCount, units_ofCount]
  exact roundedUnits_mono 0 (mul_le_mul_of_nonneg_right (Int.ofNat_le.2 h) (by positivity))

theorem mul_pow_lt_limit {n k : ℕ} (short : n ≤ 2 ^ 53) (h : 53 + k < limitExponent) : n * 2 ^ k < limit :=
  calc n * 2 ^ k ≤ 2 ^ 53 * 2 ^ k := Nat.mul_le_mul_right _ short
    _ = 2 ^ (53 + k) := (pow_add 2 53 k).symm
    _ < limit := Nat.pow_lt_pow_right Nat.one_lt_two h

/-- Counts up to two to the power of fifty-three are not rounded. -/
theorem units_ofCount_of_le {n : ℕ} (short : n ≤ 2 ^ 53) : units (ofCount n) = (n * 2 ^ 1074 : ℕ) := by
  have below : n * 2 ^ 1074 < limit := mul_pow_lt_limit short (by decide)
  have same : (n * 2 ^ 1074 : ℤ) = Float.Model.UnpackedFloat.Sign.positive.apply (n * 2 ^ 1074 : ℕ) := by
    show _ = ((n * 2 ^ 1074 : ℕ) : ℤ)
    rw [Nat.cast_mul, Nat.cast_pow, Nat.cast_ofNat]
  rw [units_ofCount, same, roundedUnits_of_short _ short below]
  rfl

theorem ofCount_zero : ofCount 0 = 0.0 := by decide +kernel

theorem ofCount_one : ofCount 1 = 1.0 := by decide +kernel

theorem ofCount_nonneg (n : ℕ) : 0.0 ≤ ofCount n := by
  rw [← ofCount_zero]
  exact ofCount_le_ofCount (Nat.zero_le n)

/-- Sums of counts up to two to the power of fifty-three are exact. -/
theorem ofCount_add {a b : ℕ} (short : a + b ≤ 2 ^ 53) : ofCount a + ofCount b = ofCount (a + b) := by
  have total := (zero_le_iff.1 (add_nonneg (ofCount_nonneg a) (ofCount_nonneg b))).1
  have same : units (ofCount a + ofCount b) = units (ofCount (a + b)) := by
    have sum : units (ofCount a) + units (ofCount b) = units (ofCount (a + b)) := by
      rw [units_ofCount_of_le (by omega), units_ofCount_of_le (by omega), units_ofCount_of_le short, Nat.add_mul,
        Nat.cast_add]
    rw [units_add total, sum, roundedUnits_units]
  rcases Nat.eq_zero_or_pos (a + b) with none | some
  · obtain ⟨rfl, rfl⟩ := Nat.add_eq_zero_iff.1 none
    rw [ofCount_zero, zero_add_zero]
  · refine eq_of_units total (isNaN_ofCount _) same ?_
    rw [same, units_ofCount_of_le short]
    exact Nat.cast_ne_zero.2 (scaled_pos some 1074).ne'

/-- The double has the value of the count. A negative zero has that of zero. -/
def IsCount (x : Float) (n : ℕ) : Prop := (x == ofCount n) = true

instance (x : Float) (n : ℕ) : Decidable (IsCount x n) := inferInstanceAs (Decidable (_ = _))

theorem isCount_iff {n : ℕ} : IsCount x n ↔ x.isNaN = false ∧ units x = units (ofCount n) := by
  constructor
  · intro h
    have compared : (unpacked x).compare (unpacked (ofCount n)) = some .eq := beq_iff_eq.1 h
    have defined := (defined_of_compare compared).1
    exact ⟨defined, (beq_iff_units defined (isNaN_ofCount n)).1 h⟩
  · rintro ⟨defined, same⟩
    exact (beq_iff_units defined (isNaN_ofCount n)).2 same

theorem isCount_ofCount (n : ℕ) : IsCount (ofCount n) n := isCount_iff.2 ⟨isNaN_ofCount n, rfl⟩

/-- Sums of doubles with the values of counts have the value of the sum. -/
theorem IsCount.add {m n : ℕ} (hx : IsCount x m) (hy : IsCount y n) (short : m + n ≤ 2 ^ 53) : IsCount (x + y) (m + n) := by
  rw [isCount_iff] at *
  have nonneg := (zero_le_iff.1 (ofCount_nonneg m)).2
  have nonneg' := (zero_le_iff.1 (ofCount_nonneg n)).2
  have total : (x + y).isNaN = false := isNaN_add_of_nonneg hx.1 hy.1 (by omega) (by omega)
  have total' : (ofCount m + ofCount n).isNaN = false := isNaN_add_of_nonneg (isNaN_ofCount m) (isNaN_ofCount n) nonneg nonneg'
  refine ⟨total, ?_⟩
  rw [units_add total, hx.2, hy.2, ← units_add total', ofCount_add short]

/-- What is at most a double with the value of a count is at most the double of the count. -/
theorem IsCount.le_iff {n : ℕ} (h : IsCount y n) : x ≤ y ↔ x ≤ ofCount n := by
  obtain ⟨defined, same⟩ := isCount_iff.1 h
  rw [le_iff_units, le_iff_units, same, defined, isNaN_ofCount]

/-! ### Running sums -/

/-- A running sum does not shrink when its terms grow and more terms are taken. -/
theorem foldl_filter_le_foldl_filter {ι : Type} {rows : List ι} {p q : ι → Bool} {v w : ι → Float}
    (taken : ∀ j ∈ rows, p j = true → q j = true) (nonneg : ∀ j ∈ rows, 0.0 ≤ v j) (grown : ∀ j ∈ rows, v j ≤ w j)
    {a b : Float} (start : 0.0 ≤ a) (h : a ≤ b) :
    ((rows.filter p).map v).foldl (· + ·) a ≤ ((rows.filter q).map w).foldl (· + ·) b := by
  induction rows generalizing a b with
  | nil => exact h
  | cons j rest ih =>
    have ih := @ih (fun k member => taken k (.tail _ member)) (fun k member => nonneg k (.tail _ member))
      fun k member => grown k (.tail _ member)
    have first := nonneg j (List.mem_cons_self ..)
    have first' := grown j (List.mem_cons_self ..)
    cases old : p j with
    | true =>
      rw [List.filter_cons_of_pos old, List.filter_cons_of_pos (taken j (List.mem_cons_self ..) old)]
      exact ih (add_nonneg start first) (add_le_add start first h first')
    | false =>
      rw [List.filter_cons_of_neg (Bool.not_eq_true _ ▸ old)]
      cases new : q j with
      | true =>
        rw [List.filter_cons_of_pos new]
        exact ih start (le_trans h (le_add (le_trans start h) (le_trans first first')))
      | false =>
        rw [List.filter_cons_of_neg (Bool.not_eq_true _ ▸ new)]
        exact ih start h

/-- A running sum of counts is the double of their sum. -/
theorem foldl_add_ofCount {counts : List ℕ} {a : ℕ} (short : a + counts.sum ≤ 2 ^ 53) :
    (counts.map ofCount).foldl (· + ·) (ofCount a) = ofCount (a + counts.sum) := by
  induction counts generalizing a with
  | nil => rfl
  | cons n rest ih =>
    rw [List.sum_cons, ← Nat.add_assoc] at short
    rw [List.map_cons, List.foldl_cons, ofCount_add (by omega), ih short, List.sum_cons, Nat.add_assoc]

/-- A running sum of doubles with the values of counts has the value of their sum. -/
theorem foldl_add_isCount {xs : List Float} {counts : List ℕ} (h : List.Forall₂ IsCount xs counts) {a : Float} {m : ℕ}
    (start : IsCount a m) (short : m + counts.sum ≤ 2 ^ 53) : IsCount (xs.foldl (· + ·) a) (m + counts.sum) := by
  induction h generalizing a m with
  | nil => exact start
  | @cons x n xs counts first _ ih =>
    rw [List.sum_cons, ← Nat.add_assoc] at short ⊢
    exact ih (start.add first (by omega)) short

end DensityAudit.Binary64
