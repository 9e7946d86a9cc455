import DensityAudit.Proofs.Doubles.Sums

/-!
# Undefined and infinite doubles

No operation makes an undefined value defined or an infinite one finite again, a divisor apart: `Taints` says so of an
operand and a result, and passes along any computation. In the other direction the difference of finite doubles is
defined, and so is the quotient of a finite double by one other than zero; roots and quotients of doubles that are not
negative are not negative themselves (`sqrt_nonneg`, `div_nonneg`).
-/

namespace DensityAudit.Binary64

open Float.Model (Format UnpackedFloat)
open Float.Model.UnpackedFloat

variable {x y z : Float}

/-! ### Reading results -/

/-- A sum is computed on unpacked doubles and packed again. -/
theorem unpacked_add (x y : Float) : unpacked (x + y) = repack (add Format.binary64 (unpacked x) (unpacked y)) := rfl

theorem unpacked_div (x y : Float) : unpacked (x / y) = repack (div Format.binary64 (unpacked x) (unpacked y)) := rfl

theorem unpacked_sqrt (x : Float) : unpacked x.sqrt = repack (sqrt Format.binary64 (unpacked x)) := rfl

theorem repack_infinity (s : Sign) : repack (.infinity s) = .infinity s := by cases s <;> rfl

theorem repack_zero (s : Sign) : repack (.zero s) = .zero s := by cases s <;> rfl

/-- What is read back as finite was finite. -/
theorem isFinite_of_repack {f : UnpackedFloat} (h : (repack f).isFinite = true) : f.isFinite = true := by
  cases f with
  | notANumber => cases h
  | infinity s => rw [repack_infinity] at h; cases h
  | _ => rfl

/-- The magnitude of a double is not rounded. -/
theorem unpacked_abs_eq (x : Float) : unpacked x.abs = (unpacked x).abs := by
  rw [unpacked_abs, ← repack_abs, repack_unpacked]

theorem isNaN_abs (x : Float) : x.abs.isNaN = x.isNaN := isNaN_unpacked_abs x

/-- A magnitude is zero iff the value is. -/
theorem abs_beq_zero (x : Float) : (x.abs == 0.0) = (x == 0.0) := by
  rw [beq_iff, beq_iff, unpacked_abs_eq, unpacked_zero]
  cases unpacked x with
  | notANumber => rfl
  | infinity s => cases s <;> rfl
  | zero s => rfl
  | finite s m e hm => cases s <;> rfl

/-- The magnitude of a zero has no sign. -/
theorem abs_eq_zero (zero : (x == 0.0) = true) : x.abs = 0.0 := by
  rw [beq_iff, unpacked_zero] at zero
  have form : (unpacked x).abs = .zero .positive := by
    cases form : unpacked x with
    | notANumber => rw [form] at zero; cases zero
    | infinity s => rw [form] at zero; cases s <;> cases zero
    | zero s => rfl
    | finite s m e hm => rw [form] at zero; cases s <;> cases zero
  exact (congrArg (fun f => Float.ofModel (.pack f)) form).trans zero_eq_pack.symm

/-- There is one undefined double. -/
theorem eq_nan_of_isNaN (undefined : x.isNaN = true) : x = .nan := by
  rwa [Float.isNaN_eq_decide_eq_nan, decide_eq_true_eq] at undefined

/-- An undefined double is not zero. -/
theorem beq_zero_of_isNaN (undefined : x.isNaN = true) : (x == 0.0) = false := by
  have number : (unpacked x).isNaN = true := undefined
  rw [beq_iff, unpacked_zero]
  cases form : unpacked x with
  | notANumber => rfl
  | _ => rw [form] at number; cases number

/-- An undefined double is below no other. -/
theorem not_lt_of_isNaN (undefined : x.isNaN = true) : ¬ x < y := by
  rw [lt_iff_units, undefined]
  exact fun less => nomatch less.1

/-! ### Opposites -/

theorem apply_neg (s : Sign) (n : ℤ) : (-s).apply n = -s.apply n := by
  cases s with
  | negative => exact (Int.neg_neg n).symm
  | positive => rfl

/-- Negation changes the sign and nothing else. -/
theorem unpacked_neg (x : Float) : unpacked (-x) = (unpacked x).neg := by
  show repack (unpacked x).neg = _
  cases form : unpacked x with
  | notANumber => rfl
  | infinity s => exact repack_infinity _
  | zero s => exact repack_zero _
  | finite s m e hm =>
    have canonical := canonical_of_unpacked form
    rw [neg, repack_finite _ hm canonical.short canonical.least canonical.full, if_pos canonical.greatest]

theorem isNaN_neg (x : Float) : (-x).isNaN = x.isNaN := by
  show (unpacked (-x)).isNaN = (unpacked x).isNaN
  rw [unpacked_neg]
  cases unpacked x <;> rfl

theorem isFinite_neg (x : Float) : (-x).isFinite = x.isFinite := by
  show (unpacked (-x)).isFinite = (unpacked x).isFinite
  rw [unpacked_neg]
  cases unpacked x <;> rfl

theorem units_neg (x : Float) : units (-x) = -units x := by
  rw [units, unpacked_neg, units]
  cases unpacked x with
  | notANumber => rfl
  | infinity s => exact apply_neg s _
  | zero s => rfl
  | finite s m e hm => exact apply_neg s _

theorem unpacked_sub_eq (spec : Format) (f g : UnpackedFloat) : sub spec f g = add spec f g.neg := by
  cases f with
  | finite s m e hm =>
    cases g with
    | finite t n d hn => simp only [sub, add, neg, apply_neg, Int.sub_eq_add_neg]
    | _ => rfl
  | _ => cases g <;> rfl

/-- A difference is the sum with the opposite. -/
theorem sub_eq_add_neg (x y : Float) : x - y = x + -y := by
  show Float.ofModel (.pack (sub Format.binary64 (unpacked x) (unpacked y))) =
    Float.ofModel (.pack (add Format.binary64 (unpacked x) (unpacked (-y))))
  rw [unpacked_neg, unpacked_sub_eq]

/-! ### From operands to results -/

/-- An undefined `x` makes `y` undefined, and an infinite one keeps `y` from being finite. -/
structure Taints (x y : Float) : Prop where
  defined : y.isNaN = false → x.isNaN = false
  finite : y.isFinite = true → x.isFinite = true

namespace Taints

theorem refl (x : Float) : Taints x x := ⟨id, id⟩

/-- What taints a result taints what is computed from it. -/
theorem trans (h : Taints x y) (h' : Taints y z) : Taints x z :=
  ⟨fun defined => h.defined (h'.defined defined), fun finite => h.finite (h'.finite finite)⟩

/-- An operand taints the result of an operation if it does so before the result is packed. -/
theorem of_unpacked {f : UnpackedFloat} (form : unpacked y = repack f)
    (defined : f.isNaN = false → (unpacked x).isNaN = false)
    (finite : f.isFinite = true → (unpacked x).isFinite = true) : Taints x y where
  defined h := by
    change (unpacked y).isNaN = false at h
    rw [form, isNaN_repack] at h
    exact defined h
  finite h := by
    change (unpacked y).isFinite = true at h
    rw [form] at h
    exact finite (isFinite_of_repack h)

theorem add_left (x y : Float) : Taints x (x + y) := by
  apply of_unpacked (unpacked_add x y)
  · cases unpacked x <;> cases unpacked y <;> simp [add, UnpackedFloat.isNaN]
  · cases unpacked x <;> cases unpacked y <;> simp [add, UnpackedFloat.isFinite]
    case infinity.infinity s t => cases s <;> cases t <;> rfl

theorem add_right (x y : Float) : Taints y (x + y) := by
  apply of_unpacked (unpacked_add x y)
  · cases unpacked x <;> cases unpacked y <;> simp [add, UnpackedFloat.isNaN]
  · cases unpacked x <;> cases unpacked y <;> simp [add, UnpackedFloat.isFinite]
    case infinity.infinity s t => cases s <;> cases t <;> rfl

theorem sub_left (x y : Float) : Taints x (x - y) := by
  rw [sub_eq_add_neg]
  exact add_left x (-y)

theorem sub_right (x y : Float) : Taints y (x - y) := by
  have opposite : Taints y (-y) := ⟨isNaN_neg y ▸ id, isFinite_neg y ▸ id⟩
  rw [sub_eq_add_neg]
  exact opposite.trans (add_right x (-y))

theorem mul_self (x : Float) : Taints x (x * x) := by
  apply of_unpacked (unpacked_mul x x)
  · cases unpacked x <;> simp [mul, UnpackedFloat.isNaN]
  · cases unpacked x <;> simp [mul, UnpackedFloat.isFinite]

theorem sqrt (x : Float) : Taints x x.sqrt := by
  apply of_unpacked (unpacked_sqrt x)
  · cases unpacked x <;> simp [UnpackedFloat.sqrt, UnpackedFloat.isNaN]
  · cases unpacked x with
    | infinity s => cases s <;> simp [UnpackedFloat.sqrt, UnpackedFloat.isFinite]
    | _ => simp [UnpackedFloat.sqrt, UnpackedFloat.isFinite]

theorem dividend (x y : Float) : Taints x (x / y) := by
  apply of_unpacked (unpacked_div x y)
  · cases unpacked x <;> cases unpacked y <;> simp [div, UnpackedFloat.isNaN]
  · cases unpacked x <;> cases unpacked y <;> simp [div, UnpackedFloat.isFinite]

/-- What a running sum starts from taints it, and so does each term. -/
theorem foldl_add (xs : List Float) (a : Float) :
    Taints a (xs.foldl (· + ·) a) ∧ ∀ v ∈ xs, Taints v (xs.foldl (· + ·) a) := by
  induction xs generalizing a with
  | nil => exact ⟨refl a, nofun⟩
  | cons v rest ih =>
    obtain ⟨start, each⟩ := ih (a + v)
    refine ⟨(add_left a v).trans start, fun w member => ?_⟩
    rcases List.mem_cons.1 member with rfl | member
    · exact (add_right a w).trans start
    · exact each w member

end Taints

/-- An undefined divisor makes a quotient undefined. -/
theorem defined_of_div (h : (x / y).isNaN = false) : y.isNaN = false := by
  change (unpacked (x / y)).isNaN = false at h
  rw [unpacked_div, isNaN_repack] at h
  show (unpacked y).isNaN = false
  revert h
  cases unpacked x <;> cases unpacked y <;> simp [div, UnpackedFloat.isNaN]

/-! ### Results that are defined -/

/-- The forms of a finite double. -/
theorem forms_of_isFinite (finite : x.isFinite = true) :
    (∃ s, unpacked x = .zero s) ∨ ∃ s m e hm, unpacked x = .finite s m e hm := by
  have number : (unpacked x).isFinite = true := finite
  cases form : unpacked x with
  | notANumber => rw [form] at number; cases number
  | infinity s => rw [form] at number; cases number
  | zero s => exact .inl ⟨s, rfl⟩
  | finite s m e hm => exact .inr ⟨s, m, e, hm, rfl⟩

/-- The sum of finite doubles is defined. -/
theorem isNaN_add_of_isFinite (finite : x.isFinite = true) (finite' : y.isFinite = true) : (x + y).isNaN = false := by
  show (unpacked (x + y)).isNaN = false
  rw [unpacked_add, isNaN_repack]
  rcases forms_of_isFinite finite with ⟨s, form⟩ | ⟨s, m, e, hm, form⟩ <;>
    rcases forms_of_isFinite finite' with ⟨t, form'⟩ | ⟨t, n, d, hn, form'⟩ <;> rw [form, form']
  · cases s <;> cases t <;> rfl
  · rfl
  · rfl
  · exact isNaN_normalize ..

/-- The difference of finite doubles is defined. -/
theorem isNaN_sub_of_isFinite (finite : x.isFinite = true) (finite' : y.isFinite = true) : (x - y).isNaN = false := by
  rw [sub_eq_add_neg]
  exact isNaN_add_of_isFinite finite ((isFinite_neg y).trans finite')

/-- Rounding never makes a number undefined. -/
theorem isNaN_roundWithAccuracy (s : Sign) (m : ℕ) (e : ℤ) (acc : Accuracy) :
    (roundWithAccuracy Format.binary64 s m e acc).isNaN = false := by
  simp only [roundWithAccuracy]
  split <;> rfl

/-- A finite double has a quotient by every double that is defined and not zero. -/
theorem isNaN_div_of_isFinite (finite : x.isFinite = true) (defined : y.isNaN = false) (nonzero : (y == 0.0) = false) :
    (x / y).isNaN = false := by
  have number : (unpacked y).isNaN = false := defined
  rw [beq_iff, unpacked_zero] at nonzero
  show (unpacked (x / y)).isNaN = false
  rw [unpacked_div, isNaN_repack]
  cases form' : unpacked y with
  | notANumber => rw [form'] at number; cases number
  | zero t => rw [form'] at nonzero; cases nonzero
  | infinity t => rcases forms_of_isFinite finite with ⟨s, form⟩ | ⟨s, m, e, hm, form⟩ <;> rw [form] <;> rfl
  | finite t n d hn =>
    rcases forms_of_isFinite finite with ⟨s, form⟩ | ⟨s, m, e, hm, form⟩ <;> rw [form]
    · rfl
    · exact isNaN_roundWithAccuracy ..

/-! ### Finite doubles -/

/-- A defined double is finite iff its units are below the limit. -/
theorem isFinite_iff_units (defined : x.isNaN = false) : x.isFinite = true ↔ (units x).natAbs < limit := by
  have number : (unpacked x).isNaN = false := defined
  show (unpacked x).isFinite = true ↔ _
  unfold units
  cases form : unpacked x with
  | notANumber => rw [form] at number; cases number
  | infinity s =>
    refine iff_of_false Bool.false_ne_true ?_
    rw [toUnits, natAbs_apply]
    omega
  | zero s => exact iff_of_true rfl limit_pos
  | finite s m e hm =>
    refine iff_of_true rfl ?_
    rw [toUnits, natAbs_apply]
    exact (canonical_of_unpacked form).lt_limit

/-- A double is infinite iff it is neither undefined nor finite. -/
theorem isInf_eq (x : Float) : x.isInf = (!x.isNaN && !x.isFinite) := by
  show (unpacked x).isInf = (!(unpacked x).isNaN && !(unpacked x).isFinite)
  cases unpacked x <;> rfl

/-- What lies between zero and a finite double is finite. -/
theorem isFinite_of_le (nonneg : 0.0 ≤ x) (h : x ≤ y) (finite : y.isFinite = true) : x.isFinite = true := by
  have sign := (zero_le_iff.1 nonneg).2
  obtain ⟨defined, defined', less⟩ := le_iff_units.1 h
  rw [isFinite_iff_units defined] at *
  rw [isFinite_iff_units defined'] at finite
  omega

/-! ### Results that are not negative -/

/-- The forms of a double that is not negative. -/
theorem zero_le_iff_unpacked : 0.0 ≤ x ↔
    unpacked x = .infinity .positive ∨ (∃ s, unpacked x = .zero s) ∨ ∃ m e hm, unpacked x = .finite .positive m e hm := by
  rw [le_iff, unpacked_zero]
  constructor
  · intro nonneg
    cases form : unpacked x with
    | notANumber => rw [form] at nonneg; cases nonneg
    | infinity s =>
      cases s with
      | negative => rw [form] at nonneg; cases nonneg
      | positive => exact .inl rfl
    | zero s => exact .inr (.inl ⟨s, rfl⟩)
    | finite s m e hm =>
      cases s with
      | negative => rw [form] at nonneg; cases nonneg
      | positive => exact .inr (.inr ⟨m, e, hm, rfl⟩)
  · rintro (form | ⟨s, form⟩ | ⟨m, e, hm, form⟩) <;> rw [form] <;> rfl

/-- A result that is rounded without a sign is not negative. -/
theorem zero_le_of_rounded {m : ℕ} {e : ℤ} {acc : Accuracy}
    (form : unpacked x = repack (roundWithAccuracy Format.binary64 .positive m e acc)) : 0.0 ≤ x := by
  apply zero_le_of_unsigned
  · rw [form, isNaN_repack, isNaN_roundWithAccuracy]
  · rw [form, repack_abs, roundWithAccuracy_abs]

/-- The root of a double that is not negative is not negative. -/
theorem sqrt_nonneg (nonneg : 0.0 ≤ x) : 0.0 ≤ x.sqrt := by
  rcases zero_le_iff_unpacked.1 nonneg with form | ⟨s, form⟩ | ⟨m, e, hm, form⟩
  · refine zero_le_iff_unpacked.2 (.inl ?_)
    rw [unpacked_sqrt, form]
    exact repack_infinity _
  · refine zero_le_iff_unpacked.2 (.inr (.inl ⟨s, ?_⟩))
    rw [unpacked_sqrt, form]
    exact repack_zero s
  · have rounded : unpacked x.sqrt = repack (roundWithAccuracy Format.binary64 .positive (sqrtCore Format.binary64 m e).1
        (sqrtCore Format.binary64 m e).2.1 (sqrtCore Format.binary64 m e).2.2) := by
      rw [unpacked_sqrt, form]
      rfl
    exact zero_le_of_rounded rounded

/-- A defined quotient of doubles that are not negative is not negative, unless the divisor is zero. -/
theorem div_nonneg (nonneg : 0.0 ≤ x) (nonneg' : 0.0 ≤ y) (nonzero : (y == 0.0) = false)
    (defined : (x / y).isNaN = false) : 0.0 ≤ x / y := by
  change (unpacked (x / y)).isNaN = false at defined
  rw [zero_le_iff_unpacked] at nonneg nonneg'
  rcases nonneg' with form' | ⟨t, form'⟩ | ⟨n, d, hn, form'⟩
  · rcases nonneg with form | ⟨s, form⟩ | ⟨m, e, hm, form⟩
    · rw [unpacked_div, isNaN_repack, form, form'] at defined
      cases defined
    · refine zero_le_iff_unpacked.2 (.inr (.inl ⟨s / .positive, ?_⟩))
      rw [unpacked_div, form, form']
      exact repack_zero _
    · refine zero_le_iff_unpacked.2 (.inr (.inl ⟨.positive / .positive, ?_⟩))
      rw [unpacked_div, form, form']
      exact repack_zero _
  · rw [beq_iff, form', unpacked_zero] at nonzero
    cases nonzero
  · rcases nonneg with form | ⟨s, form⟩ | ⟨m, e, hm, form⟩
    · refine zero_le_iff_unpacked.2 (.inl ?_)
      rw [unpacked_div, form, form']
      exact repack_infinity _
    · refine zero_le_iff_unpacked.2 (.inr (.inl ⟨s / .positive, ?_⟩))
      rw [unpacked_div, form, form']
      exact repack_zero _
    · have rounded : unpacked (x / y) = repack (roundWithAccuracy Format.binary64 .positive (divCore Format.binary64 m e n d).1
          (divCore Format.binary64 m e n d).2.1 (divCore Format.binary64 m e n d).2.2) := by
        rw [unpacked_div, form, form']
        rfl
      exact zero_le_of_rounded rounded

/-- The double of a count other than zero is not zero. -/
theorem ofCount_beq_zero {n : ℕ} (positive : 0 < n) : (ofCount n == 0.0) = false := by
  have least := (le_iff_units.1 (ofCount_le_ofCount positive)).2.2
  have one : (0 : ℤ) < (1 * 2 ^ 1074 : ℕ) := by positivity
  rw [units_ofCount_of_le (by decide)] at least
  rw [← Bool.not_eq_true, beq_iff_units (isNaN_ofCount n) (zero_le_iff.1 zero_le_zero).1, units_zero]
  omega

/-- One more term before it does not make a value less. -/
theorem le_add_left (nonneg : 0.0 ≤ x) (nonneg' : 0.0 ≤ y) : y ≤ x + y := by
  have sum := zero_le_iff.1 (add_nonneg nonneg nonneg')
  have sign := (zero_le_iff.1 nonneg).2
  refine le_iff_units.2 ⟨(zero_le_iff.1 nonneg').1, sum.1, ?_⟩
  calc units y = roundedUnits 0 (units y) := (roundedUnits_units y).symm
    _ ≤ roundedUnits 0 (units x + units y) := roundedUnits_mono 0 (by omega)
    _ = units (x + y) := (units_add sum.1).symm

/-- A running sum of doubles that are not negative is at least what it starts from and at least each of them. -/
theorem le_foldl_add {xs : List Float} (nonneg : ∀ v ∈ xs, 0.0 ≤ v) {a : Float} (start : 0.0 ≤ a) :
    a ≤ xs.foldl (· + ·) a ∧ ∀ v ∈ xs, v ≤ xs.foldl (· + ·) a := by
  induction xs generalizing a with
  | nil => exact ⟨le_refl (zero_le_iff.1 start).1, nofun⟩
  | cons v rest ih =>
    have first := nonneg v (List.mem_cons_self ..)
    obtain ⟨later, each⟩ := ih (fun w member => nonneg w (.tail _ member)) (add_nonneg start first)
    refine ⟨le_trans (le_add start first) later, fun w member => ?_⟩
    rcases List.mem_cons.1 member with rfl | member
    · exact le_trans (le_add_left start first) later
    · exact each w member

end DensityAudit.Binary64
