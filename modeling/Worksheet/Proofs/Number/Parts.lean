import Mathlib
import Worksheet.Proofs.Number.Rounding

/-! The parts of a double. A finite double is its sign and its parts put together again; any finite double that is not
zero has parts in range. -/

namespace Worksheet.Double

open Float.Model

def magnitude (x : Float) : ℕ :=
  x.toBits.toNat % 2 ^ 63

theorem unpackExponent_eq_allOnes {bits : Bits} :
    UnpackedFloat.unpackExponent bits = -1#11 ↔ bits.toNat / 2 ^ 52 % 2048 = 2047 := by
  rw [← BitVec.toNat_inj, toNat_exponent]
  rfl

theorem isFinite_unpack (bits : Bits) :
    (UnpackedFloat.unpack .binary64 bits).isFinite = true ↔ bits.toNat / 2 ^ 52 % 2048 ≠ 2047 := by
  rw [ne_eq, ← unpackExponent_eq_allOnes]
  unfold UnpackedFloat.unpack
  simp only
  split
  next extreme =>
    split
    · simp [UnpackedFloat.isFinite, extreme]
    · simp [UnpackedFloat.isFinite, extreme]
  next inside =>
    split
    · split
      · exact iff_of_true rfl inside
      · exact iff_of_true rfl inside
    · exact iff_of_true rfl inside

theorem isFinite_iff {x : Float} : x.isFinite = true ↔ x.toBits.toNat / 2 ^ 52 % 2048 ≠ 2047 :=
  isFinite_unpack x.toBits.toBitVec

theorem isNaN_of_isFinite {x : Float} (finite : x.isFinite = true) : x.isNaN = false := by
  change (UnpackedFloat.unpack .binary64 x.toBits.toBitVec).isNaN = false
  change (UnpackedFloat.unpack .binary64 x.toBits.toBitVec).isFinite = true at finite
  cases unpacked : UnpackedFloat.unpack .binary64 x.toBits.toBitVec with
  | notANumber => rw [unpacked] at finite; cases finite
  | _ => rfl

theorem isInf_of_isFinite {x : Float} (finite : x.isFinite = true) : x.isInf = false := by
  change (UnpackedFloat.unpack .binary64 x.toBits.toBitVec).isInf = false
  change (UnpackedFloat.unpack .binary64 x.toBits.toBitVec).isFinite = true at finite
  cases unpacked : UnpackedFloat.unpack .binary64 x.toBits.toBitVec with
  | infinity sign => rw [unpacked] at finite; cases finite
  | _ => rfl

theorem toNat_unpackSign (bits : Bits) : (UnpackedFloat.unpackSign bits).toNat = bits.toNat / 2 ^ 63 % 2 := by
  simp [UnpackedFloat.unpackSign, Nat.shiftRight_eq_div_pow]

theorem unpack_of_negative {bits other : Bits} (negative : bits.toNat / 2 ^ 63 = 1)
    (rest : other.toNat = bits.toNat % 2 ^ 63) :
    UnpackedFloat.unpack .binary64 bits = (UnpackedFloat.unpack .binary64 other).neg := by
  have exponent : UnpackedFloat.unpackExponent bits = UnpackedFloat.unpackExponent other := by
    rw [← BitVec.toNat_inj, toNat_exponent, toNat_exponent, rest]
    omega
  have mantissa : UnpackedFloat.unpackMantissa bits = UnpackedFloat.unpackMantissa other := by
    rw [← BitVec.toNat_inj, toNat_mantissa, toNat_mantissa, rest]
    omega
  have sign : UnpackedFloat.unpackSign bits = 1#1 := by
    rw [← BitVec.toNat_inj, toNat_unpackSign, negative]
    rfl
  have otherSign : UnpackedFloat.unpackSign other = 0#1 := by
    have clear : bits.toNat % 2 ^ 63 / 2 ^ 63 % 2 = 0 := by omega
    rw [← BitVec.toNat_inj, toNat_unpackSign, rest, clear]
    rfl
  unfold UnpackedFloat.unpack
  simp only [exponent, mantissa, sign, otherSign]
  split
  · split <;> rfl
  · split
    · split <;> rfl
    · rfl

theorem not_isNaNBits {bits : Bits} (finite : bits.toNat / 2 ^ 52 % 2048 ≠ 2047) :
    UnpackedFloat.isNaNBits bits = false :=
  decide_eq_false fun both => finite (unpackExponent_eq_allOnes.mp both.1)

theorem toBits_ofBits {bits : ℕ} (finite : bits / 2 ^ 52 % 2048 ≠ 2047) (bounded : bits < 2 ^ 64) :
    (Float.ofBits bits.toUInt64).toBits.toNat = bits := by
  have own : bits.toUInt64.toBitVec.toNat = bits := by
    change bits.toUInt64.toNat = bits
    rw [Nat.toUInt64_eq, UInt64.toNat_ofNat', Nat.mod_eq_of_lt bounded]
  have number := not_isNaNBits (show bits.toUInt64.toBitVec.toNat / 2 ^ 52 % 2048 ≠ 2047 by rwa [own])
  change (UnpackedFloat.pack .binary64 (UnpackedFloat.unpack .binary64 bits.toUInt64.toBitVec)).toNat = bits
  rw [UnpackedFloat.pack_unpack, number, if_neg Bool.false_ne_true, own]

theorem isFinite_ofBits {bits : ℕ} (finite : bits / 2 ^ 52 % 2048 ≠ 2047) (bounded : bits < 2 ^ 64) :
    (Float.ofBits bits.toUInt64).isFinite = true := by
  rw [isFinite_iff, toBits_ofBits finite bounded]
  exact finite

theorem withSign_magnitude {x : Float} (finite : x.isFinite = true) :
    withSign (isNegative x) (Float.ofBits (magnitude x).toUInt64) = x := by
  have inside := isFinite_iff.mp finite
  have bounded : x.toBits.toNat < 2 ^ 64 := x.toBits.toNat_lt
  have sameExponent : magnitude x / 2 ^ 52 % 2048 = x.toBits.toNat / 2 ^ 52 % 2048 := by
    unfold magnitude
    omega
  have own : (Float.ofBits (magnitude x).toUInt64).toBits.toNat = magnitude x :=
    toBits_ofBits (by rw [sameExponent]; exact inside) (by unfold magnitude; omega)
  unfold withSign isNegative
  split
  next negative =>
    have top : x.toBits.toNat / 2 ^ 63 = 1 := by simpa using negative
    refine Float.toBits_inj.mp (UInt64.toBitVec_inj.mp ?_)
    change UnpackedFloat.pack .binary64
      (UnpackedFloat.unpack .binary64 (Float.ofBits (magnitude x).toUInt64).toBits.toBitVec).neg = x.toBits.toBitVec
    rw [← unpack_of_negative top own]
    exact UnpackedFloat.pack_unpack_of_valid x.toModel.valid
  next positive =>
    have top : ¬x.toBits.toNat / 2 ^ 63 = 1 := by simpa using positive
    have same : magnitude x = x.toBits.toNat := by
      unfold magnitude
      omega
    rw [same, Nat.toUInt64_eq, UInt64.ofNat_toNat, Float.ofBits_toBits]

theorem parts_cases (x : Float) :
    (x.toBits.toNat / 2 ^ 52 % 2048 = 0 ∧ (parts x).mantissa = x.toBits.toNat % 2 ^ 52 ∧ (parts x).exponent = -1074) ∨
      (x.toBits.toNat / 2 ^ 52 % 2048 ≠ 0 ∧ (parts x).mantissa = 2 ^ 52 + x.toBits.toNat % 2 ^ 52 ∧
        (parts x).exponent = (x.toBits.toNat / 2 ^ 52 % 2048 : ℕ) - 1075) := by
  unfold parts
  simp only [Nat.pow_eq]
  split
  next clear => exact Or.inl ⟨clear, rfl, rfl⟩
  next set => exact Or.inr ⟨set, rfl, rfl⟩

theorem assemble_parts {x : Float} (finite : x.isFinite = true) :
    assemble (parts x).mantissa (parts x).exponent = Float.ofBits (magnitude x).toUInt64 := by
  have inside := isFinite_iff.mp finite
  unfold assemble magnitude
  simp only [Nat.pow_eq]
  rcases parts_cases x with ⟨clear, mantissa, exponent⟩ | ⟨set, mantissa, exponent⟩
  · rw [if_pos (by omega), mantissa]
    congr 2
    omega
  · have bits : ((parts x).exponent + 1075).toNat * 2 ^ 52 + ((parts x).mantissa - 2 ^ 52) = x.toBits.toNat % 2 ^ 63 := by
      omega
    rw [if_neg (show ¬(parts x).mantissa < 2 ^ 52 by omega), if_neg (show ¬(parts x).mantissa = 2 ^ 53 by omega),
      if_neg (show ¬(parts x).exponent > 971 by omega), bits]

theorem proper_parts {x : Float} (finite : x.isFinite = true) (nonzero : (x == 0.0) = false) : (parts x).Proper := by
  have inside := isFinite_iff.mp finite
  have some : magnitude x ≠ 0 := by
    intro none
    have whole := withSign_magnitude finite
    rw [none] at whole
    rw [← whole] at nonzero
    unfold withSign at nonzero
    split at nonzero
    · exact absurd nonzero (by decide +kernel)
    · exact absurd nonzero (by decide +kernel)
  unfold magnitude at some
  rcases parts_cases x with ⟨clear, mantissa, exponent⟩ | ⟨set, mantissa, exponent⟩
  · exact ⟨by omega, by omega, by omega, by omega, Or.inr exponent⟩
  · exact ⟨by omega, by omega, by omega, by omega, Or.inl (by omega)⟩

end Worksheet.Double
