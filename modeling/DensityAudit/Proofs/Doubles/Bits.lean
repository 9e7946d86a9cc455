import DensityAudit.Decimal.Nearest
import DensityAudit.Proofs.Doubles.Defined

/-!
# The bits of a double

A double is its sign bit and the bits below it, which are those of its magnitude. The magnitudes of the finite doubles
are the numbers below the bits of infinity, and those of the undefined double are above them (`magnitudeBits_cases`). A
double is therefore read back from the bits of its magnitude, up to its sign (`eq_ofMagnitude`), and the bits of the
magnitude are the parts of the double put together again (`bits_parts`).
-/

namespace DensityAudit.Binary64

open Float.Model (Format UnpackedFloat)
open Float.Model.UnpackedFloat
open Decimal (infinityBits)

variable {x y : Float}

/-! ### Packed fields -/

/-- The bits below the sign bit. -/
def magnitudeBits (x : Float) : ℕ := x.toBits.toNat % signWeight

/-- The double without a sign that has the given bits. -/
def ofMagnitude (bits : ℕ) : Float := Float.ofBits (UInt64.ofNat bits)

theorem toNat_packComponents (s : Sign) (e : BitVec Format.binary64.exponentBits)
    (m : BitVec Format.binary64.mantissaBitsWithoutImplicit) :
    (packComponents Format.binary64 s e m).toNat =
      s.toBitVec.toNat * signWeight + (e.toNat * fractionSpan + m.toNat) := by
  have exponent : e.toNat < 2 ^ 11 := e.isLt
  have mantissa : m.toNat < 2 ^ 52 := m.isLt
  rw [packComponents, BitVec.toNat_append, BitVec.toNat_append]
  show ((s.toBitVec.toNat <<< 11 ||| e.toNat) <<< 52 ||| m.toNat) = _
  rw [← Nat.shiftLeft_add_eq_or_of_lt mantissa, ← Nat.shiftLeft_add_eq_or_of_lt exponent, Nat.shiftLeft_eq,
    Nat.shiftLeft_eq, signWeight, fractionSpan]
  omega

/-- A double has a sign, an exponent field and a fraction. -/
theorem exists_components (x : Float) : ∃ s e m, x.toBits.toBitVec = packComponents Format.binary64 s e m :=
  ⟨_, _, _, (@packComponents_unpackSign_unpackExponent_unpackMantissa Format.binary64 x.toBits.toBitVec).symm⟩

theorem unpacked_ofBits (bits : UInt64) : unpacked (Float.ofBits bits) = unpack Format.binary64 bits.toBitVec := by
  show repack (unpack Format.binary64 bits.toBitVec) = _
  rw [repack, pack_unpack]
  split
  case isTrue undefined =>
    obtain ⟨exponent, fraction⟩ := of_decide_eq_true undefined
    rw [unpack_packedNaN, unpack]
    simp only [exponent, if_true, if_neg fraction]
  case isFalse => rfl

/-- A double is determined by its sign, mantissa and exponent. -/
theorem unpacked_inj (same : unpacked x = unpacked y) : x = y :=
  Float.toBits_inj.1 (UInt64.toBitVec_inj.1 ((unpack_inj_of_valid x.toModel.valid y.toModel.valid).1 same))

/-- The sign field changes nothing but the sign. -/
theorem neg_unpack_packComponents (e : BitVec Format.binary64.exponentBits)
    (m : BitVec Format.binary64.mantissaBitsWithoutImplicit) :
    (unpack Format.binary64 (packComponents Format.binary64 .positive e m)).neg =
      unpack Format.binary64 (packComponents Format.binary64 .negative e m) := by
  simp only [unpack, unpackExponent_packComponents, unpackMantissa_packComponents, unpackSign_packComponents,
    Sign.ofBitVec_toBitVec]
  split
  · split <;> rfl
  · split
    · split <;> rfl
    · rfl

/-! ### Magnitudes -/

section Components

variable {s : Sign} {e : BitVec Format.binary64.exponentBits} {m : BitVec Format.binary64.mantissaBitsWithoutImplicit}

theorem fields_lt : e.toNat * fractionSpan + m.toNat < signWeight := by
  have exponent : e.toNat < 2 ^ 11 := e.isLt
  have mantissa : m.toNat < 2 ^ 52 := m.isLt
  rw [fractionSpan, signWeight]
  omega

theorem toNat_toBits (fields : x.toBits.toBitVec = packComponents Format.binary64 s e m) :
    x.toBits.toNat = s.toBitVec.toNat * signWeight + (e.toNat * fractionSpan + m.toNat) := by
  rw [← toNat_packComponents, ← fields]
  rfl

theorem magnitudeBits_eq (fields : x.toBits.toBitVec = packComponents Format.binary64 s e m) :
    magnitudeBits x = e.toNat * fractionSpan + m.toNat := by
  rw [magnitudeBits, toNat_toBits fields, Nat.mul_add_mod_self_right, Nat.mod_eq_of_lt fields_lt]

theorem signBit_eq (fields : x.toBits.toBitVec = packComponents Format.binary64 s e m) :
    signBit x = (s == .negative) := by
  have low : e.toNat * fractionSpan + m.toNat < signWeight := fields_lt
  rw [signBit, toNat_toBits fields]
  cases s with
  | negative => exact decide_eq_true (Nat.le_add_right_of_le (Nat.one_mul _).ge)
  | positive => exact decide_eq_false (by rw [Sign.toBitVec, BitVec.toNat_ofNat]; omega)

theorem unpacked_eq (fields : x.toBits.toBitVec = packComponents Format.binary64 s e m) :
    unpacked x = unpack Format.binary64 (packComponents Format.binary64 s e m) := by
  rw [← fields]
  rfl

theorem unpacked_ofMagnitude :
    unpacked (ofMagnitude (e.toNat * fractionSpan + m.toNat)) =
      unpack Format.binary64 (packComponents Format.binary64 .positive e m) := by
  have low : e.toNat * fractionSpan + m.toNat < signWeight := fields_lt
  rw [ofMagnitude, unpacked_ofBits]
  refine congrArg _ (BitVec.eq_of_toNat_eq ?_)
  rw [toNat_packComponents, Sign.toBitVec]
  have fits : e.toNat * fractionSpan + m.toNat < 2 ^ 64 := low.trans (by decide)
  rw [UInt64.toBitVec_ofNat', BitVec.toNat_ofNat, Nat.mod_eq_of_lt fits]
  simp

end Components

/-- A double is its magnitude with its sign. -/
theorem eq_ofMagnitude (x : Float) :
    x = if signBit x then -ofMagnitude (magnitudeBits x) else ofMagnitude (magnitudeBits x) := by
  obtain ⟨s, e, m, fields⟩ := exists_components x
  apply unpacked_inj
  rw [magnitudeBits_eq fields, signBit_eq fields, unpacked_eq fields]
  cases s with
  | positive => exact unpacked_ofMagnitude.symm
  | negative =>
    show _ = unpacked (-ofMagnitude _)
    rw [unpacked_neg, unpacked_ofMagnitude, neg_unpack_packComponents]

/-- The magnitude of a finite double is below that of infinity, which is the only other defined one. -/
theorem magnitudeBits_cases (defined : x.isNaN = false) :
    x.isFinite = true ∧ magnitudeBits x < infinityBits ∨ x.isFinite = false ∧ magnitudeBits x = infinityBits := by
  obtain ⟨s, e, m, fields⟩ := exists_components x
  have exponent : e.toNat < 2 ^ 11 := e.isLt
  have mantissa : m.toNat < 2 ^ 52 := m.isLt
  have read := unpacked_eq fields
  have number : (unpacked x).isNaN = false := defined
  show (unpacked x).isFinite = true ∧ _ ∨ (unpacked x).isFinite = false ∧ _
  rw [magnitudeBits_eq fields, infinityBits, fractionSpan]
  simp only [unpack, unpackExponent_packComponents, unpackMantissa_packComponents] at read
  by_cases full : e = -1#_
  · have largest : e.toNat = 2047 := congrArg BitVec.toNat full
    rw [if_pos full] at read
    by_cases whole : m = 0#_
    · have nothing : m.toNat = 0 := congrArg BitVec.toNat whole
      rw [if_pos whole] at read
      refine .inr ⟨by rw [read]; rfl, ?_⟩
      omega
    · rw [if_neg whole] at read
      rw [read] at number
      cases number
  · have smaller : e.toNat ≠ 2047 := fun h => full (BitVec.eq_of_toNat_eq h)
    rw [if_neg full] at read
    refine .inl ⟨?_, by omega⟩
    rw [read]
    split
    · split <;> rfl
    · rfl

/-! ### Parts -/

/-- The parts of a double are read off its bits; without a stored exponent there is no implicit first bit. -/
theorem parts_eq (x : Float) :
    parts x = if magnitudeBits x / 4503599627370496 = 0 then ⟨signBit x, magnitudeBits x % 4503599627370496, -1074⟩
      else ⟨signBit x, 4503599627370496 + magnitudeBits x % 4503599627370496,
        (magnitudeBits x / 4503599627370496 : ℕ) - 1075⟩ :=
  rfl

/-- The parts of a finite double are the mantissa and the exponent of its last bit. -/
theorem canonical_parts (small : magnitudeBits x < infinityBits) : Canonical (parts x).mantissa (parts x).exponent := by
  rw [infinityBits, fractionSpan] at small
  rw [parts_eq]
  split
  · exact ⟨by dsimp only; omega, by dsimp only; omega, by dsimp only; omega, .inr rfl⟩
  · exact ⟨by dsimp only; omega, by dsimp only; omega, by dsimp only; omega, .inl (by dsimp only; omega)⟩

/-- The exponent and the mantissa are added, so that the implicit bit of the mantissa counts as one exponent more. -/
theorem bits_parts (x : Float) :
    ((parts x).exponent + 1074).toNat * fractionSpan + (parts x).mantissa = magnitudeBits x := by
  have small : magnitudeBits x < signWeight := Nat.mod_lt _ (by decide)
  rw [parts_eq, fractionSpan]
  split <;> dsimp only <;> omega

end DensityAudit.Binary64
