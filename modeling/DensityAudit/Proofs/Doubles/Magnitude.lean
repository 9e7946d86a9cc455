import Mathlib
import DensityAudit.Compare.Tolerance

/-!
# Magnitudes of doubles

Arithmetic on doubles unpacks its operands, computes, rounds and packs the result again. Packing treats
the sign apart from the magnitude (`repack_abs`) and never makes a number undefined (`isNaN_repack`), so
facts about signs cross the rounding without any analysis of it: a difference and its opposite have the
same square, a square is not below zero, and a finite double differs from itself by zero.
-/

namespace DensityAudit.Binary64

open Float.Model (Format UnpackedFloat)
open Float.Model.UnpackedFloat

/-! ### Packing and unpacking -/

/-- The sign, mantissa and exponent of a double, or which special value it is. -/
def unpacked (x : Float) : UnpackedFloat := x.toModel.unpack

/-- What is read back after a result has been packed into a double. -/
def repack (f : UnpackedFloat) : UnpackedFloat := unpack Format.binary64 (pack Format.binary64 f)

/-- The fields of a double other than its sign determine its magnitude. -/
theorem unpack_packComponents_abs (sign : Sign) (e : BitVec Format.binary64.exponentBits)
    (m : BitVec Format.binary64.mantissaBitsWithoutImplicit) :
    (unpack Format.binary64 (packComponents Format.binary64 sign e m)).abs =
      unpack Format.binary64 (packComponents Format.binary64 .positive e m) := by
  simp only [unpack, unpackExponent_packComponents, unpackMantissa_packComponents, unpackSign_packComponents,
    Sign.ofBitVec_toBitVec]
  split
  · split <;> rfl
  · split
    · split <;> rfl
    · rfl

/-- A number is packed with fields that its magnitude determines, and that no undefined value has. -/
theorem exists_fields {f : UnpackedFloat} (defined : f.isNaN = false) :
    ∃ sign e m, (e = -1#_ → m = 0#_) ∧ pack Format.binary64 f = packComponents Format.binary64 sign e m ∧
      pack Format.binary64 f.abs = packComponents Format.binary64 .positive e m := by
  cases f with
  | notANumber => cases defined
  | infinity s => exact ⟨s, _, _, fun _ => rfl, rfl, rfl⟩
  | zero s => exact ⟨s, _, _, fun _ => rfl, rfl, rfl⟩
  | finite s m e hm =>
    have opened : ∀ sign, pack Format.binary64 (.finite sign m e hm) =
        if 2 ^ 11 ≤ (e + 1023 + 52).toNat + 1 then packedInfinity Format.binary64 sign
        else if m.log2 + 1 = 53 then
          packComponents Format.binary64 sign (BitVec.ofNat _ (e + 1023 + 52).toNat) (BitVec.ofNat _ m)
        else packComponents Format.binary64 sign 0#_ (BitVec.ofNat _ m) := fun _ => rfl
    rw [UnpackedFloat.abs, opened, opened]
    split
    case isTrue => exact ⟨s, _, _, fun _ => rfl, rfl, rfl⟩
    case isFalse small =>
      split
      · refine ⟨s, _, _, fun full => ?_, rfl, rfl⟩
        have exponent := congrArg BitVec.toNat full
        simp at exponent
        omega
      · exact ⟨s, _, _, fun full => absurd full (by decide), rfl, rfl⟩

/-- The magnitude of what is read back is read back from the magnitude. -/
theorem repack_abs (f : UnpackedFloat) : (repack f).abs = repack f.abs := by
  cases defined : f.isNaN with
  | true => cases f <;> first | rfl | cases defined
  | false =>
    obtain ⟨sign, e, m, -, packed, magnitude⟩ := exists_fields defined
    rw [repack, packed, repack, magnitude, unpack_packComponents_abs]

/-- Only the undefined value is read back as undefined. -/
theorem isNaN_repack (f : UnpackedFloat) : (repack f).isNaN = f.isNaN := by
  cases defined : f.isNaN with
  | true => cases f <;> first | rfl | cases defined
  | false =>
    obtain ⟨sign, e, m, infinite, packed, -⟩ := exists_fields defined
    rw [repack, packed]
    simp only [unpack, unpackExponent_packComponents, unpackMantissa_packComponents]
    split
    · rename_i full
      rw [if_pos (infinite full)]
      rfl
    · split
      · split <;> rfl
      · rfl

/-! ### Differences and products -/

/-- Rounding does not look at the sign. -/
theorem roundWithAccuracy_abs (spec : Format) (s : Sign) (m : Nat) (e : Int) (acc : Accuracy) :
    (roundWithAccuracy spec s m e acc).abs = roundWithAccuracy spec .positive m e acc := by
  simp only [roundWithAccuracy]
  split <;> rfl

/-- The sign plays no part in rounding. -/
theorem round_abs (spec : Format) (s : Sign) (m : Nat) (e : Int) :
    (round spec s m e).abs = round spec .positive m e :=
  roundWithAccuracy_abs ..

theorem normalize_neg_abs (spec : Format) (m e : Int) (s : Sign) :
    (UnpackedFloat.normalize spec (-m) e s).abs = (UnpackedFloat.normalize spec m e s).abs := by
  rcases Int.lt_trichotomy m 0 with below | rfl | above
  · have flipped : compare (-m) 0 = .gt := Int.compare_eq_gt.2 (by omega)
    have kept : compare m 0 = .lt := Int.compare_eq_lt.2 below
    simp only [UnpackedFloat.normalize, flipped, kept, round_abs]
  · rfl
  · have flipped : compare (-m) 0 = .lt := Int.compare_eq_lt.2 (by omega)
    have kept : compare m 0 = .gt := Int.compare_eq_gt.2 above
    simp only [UnpackedFloat.normalize, flipped, kept, round_abs, Int.neg_neg]

/-- A difference and its opposite have one magnitude. -/
theorem sub_comm_abs (spec : Format) (f g : UnpackedFloat) : (sub spec f g).abs = (sub spec g f).abs := by
  cases f with
  | notANumber => cases g <;> rfl
  | infinity s => cases g <;> cases s <;> first | rfl | (rename_i t; cases t <;> rfl)
  | zero s => cases g <;> cases s <;> first | rfl | (rename_i t; cases t <;> rfl)
  | finite s m e hm =>
    cases g with
    | finite t n d hn =>
      simp only [sub]
      rw [Int.min_comm d e, ← normalize_neg_abs, Int.neg_sub]
    | _ => rfl

theorem sign_mul_self (s : Sign) : s * s = .positive := by cases s <;> rfl

/-- The square of a value is that of its magnitude. -/
theorem mul_self_eq_abs (spec : Format) (f : UnpackedFloat) : mul spec f f = mul spec f.abs f.abs := by
  cases f with
  | notANumber => rfl
  | infinity s => cases s <;> rfl
  | zero s => cases s <;> rfl
  | finite s m e hm => simp only [mul, UnpackedFloat.abs, sign_mul_self]

/-- A square has no sign. -/
theorem mul_self_abs (spec : Format) (f : UnpackedFloat) : (mul spec f f).abs = mul spec f f := by
  cases f with
  | notANumber => rfl
  | infinity s => cases s <;> rfl
  | zero s => cases s <;> rfl
  | finite s m e hm => simp only [mul, sign_mul_self, roundWithAccuracy_abs]

theorem isNaN_mul_self (spec : Format) {f : UnpackedFloat} (defined : f.isNaN = false) :
    (mul spec f f).isNaN = false := by
  cases f with
  | notANumber => cases defined
  | infinity s => rfl
  | zero s => rfl
  | finite s m e hm =>
    simp only [mul, roundWithAccuracy]
    split <;> rfl

/-- A finite number less itself is zero. -/
theorem sub_self_of_isFinite (spec : Format) {f : UnpackedFloat} (finite : f.isFinite = true) :
    sub spec f f = .zero .positive := by
  cases f with
  | notANumber => cases finite
  | infinity s => cases finite
  | zero s => cases s <;> rfl
  | finite s m e hm =>
    simp only [sub, Int.sub_self]
    rfl

/-! ### Doubles -/

theorem unpacked_sub (x y : Float) : unpacked (x - y) = repack (sub Format.binary64 (unpacked x) (unpacked y)) := rfl

theorem unpacked_mul (x y : Float) : unpacked (x * y) = repack (mul Format.binary64 (unpacked x) (unpacked y)) := rfl

theorem unpacked_abs (x : Float) : unpacked x.abs = repack (unpacked x).abs := rfl

/-- A magnitude has no sign. -/
theorem abs_unpacked_abs (x : Float) : (unpacked x.abs).abs = unpacked x.abs := by
  rw [unpacked_abs, repack_abs]
  cases unpacked x <;> rfl

theorem isNaN_unpacked_abs (x : Float) : (unpacked x.abs).isNaN = x.isNaN := by
  rw [unpacked_abs, isNaN_repack]
  show (unpacked x).abs.isNaN = (unpacked x).isNaN
  cases unpacked x <;> rfl

theorem le_iff {x y : Float} : x ≤ y ↔ (unpacked x).le (unpacked y) = true := decide_eq_true_iff

theorem beq_iff {x y : Float} : (x == y) = (unpacked x).beq (unpacked y) := rfl

theorem zero_eq_pack : (0.0 : Float) = .ofModel (.pack (.zero .positive)) := by decide +kernel

theorem unpacked_zero : unpacked 0.0 = .zero .positive := by
  rw [zero_eq_pack]
  rfl

/-- A difference and its opposite have one magnitude, whatever the operands are. -/
theorem abs_unpacked_sub_comm (x y : Float) : (unpacked (x - y)).abs = (unpacked (y - x)).abs := by
  rw [unpacked_sub, unpacked_sub, repack_abs, repack_abs, sub_comm_abs]

/-- The magnitude of a difference does not depend on which number comes first. -/
theorem abs_sub_comm (x y : Float) : (x - y).abs = (y - x).abs :=
  congrArg (fun f => Float.ofModel (.pack f)) (abs_unpacked_sub_comm x y)

/-- A difference and its opposite have the same square. -/
theorem square_sub_comm (x y : Float) : (x - y) * (x - y) = (y - x) * (y - x) := by
  have squares : mul Format.binary64 (unpacked (x - y)) (unpacked (x - y)) =
      mul Format.binary64 (unpacked (y - x)) (unpacked (y - x)) := by
    rw [mul_self_eq_abs, abs_unpacked_sub_comm, ← mul_self_eq_abs]
  exact congrArg (fun f => Float.ofModel (.pack f)) squares

/-- A finite double differs from itself by zero. -/
theorem sub_self_of_finite {x : Float} (finite : x.isFinite = true) : x - x = 0.0 := by
  rw [zero_eq_pack, ← sub_self_of_isFinite Format.binary64 (f := unpacked x) finite]
  rfl

theorem zero_mul_zero : (0.0 : Float) * 0.0 = 0.0 := by decide +kernel

theorem zero_add_zero : (0.0 : Float) + 0.0 = 0.0 := by decide +kernel

/-- Zero is at most every value that is defined and has no sign. -/
theorem zero_le_of_unsigned {x : Float} (defined : (unpacked x).isNaN = false)
    (unsigned : (unpacked x).abs = unpacked x) : 0.0 ≤ x := by
  rw [le_iff, unpacked_zero, ← unsigned]
  cases form : unpacked x with
  | notANumber => rw [form] at defined; cases defined
  | _ => rfl

/-- The square of a defined double is not below zero. -/
theorem zero_le_square {x : Float} (defined : x.isNaN = false) : 0.0 ≤ x * x := by
  apply zero_le_of_unsigned
  · rw [unpacked_mul, isNaN_repack]
    exact isNaN_mul_self _ defined
  · rw [unpacked_mul, repack_abs, mul_self_abs]

/-- Zero divided by a value that is defined, not zero and has no sign. -/
theorem zero_div_of_unsigned {x : Float} (defined : (unpacked x).isNaN = false)
    (unsigned : (unpacked x).abs = unpacked x) (nonzero : (x == 0.0) = false) : 0.0 / x = 0.0 := by
  have quotient : div Format.binary64 (unpacked 0.0) (unpacked x) = .zero .positive := by
    rw [beq_iff, unpacked_zero, ← unsigned] at nonzero
    rw [unpacked_zero, ← unsigned]
    cases form : unpacked x with
    | notANumber => rw [form] at defined; cases defined
    | zero s => rw [form] at nonzero; cases nonzero
    | _ => rfl
  exact (congrArg (fun f => Float.ofModel (.pack f)) quotient).trans zero_eq_pack.symm

theorem isNaN_of_isFinite {x : Float} (finite : x.isFinite = true) : x.isNaN = false := by
  have read : (unpacked x).isFinite = true := finite
  show (unpacked x).isNaN = false
  cases form : unpacked x with
  | notANumber => rw [form] at read; cases read
  | _ => rfl

end DensityAudit.Binary64
