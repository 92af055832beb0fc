import Mathlib
import Worksheet.Number.Basic

/-! Zero among the doubles. A double that equals zero has no bit but its sign, and no integer but zero is rounded to
such a double. -/

namespace Worksheet

namespace Double

open Float.Model

abbrev Bits := BitVec Format.binary64.numBits

/-- All bits but the sign are clear. -/
def Clear (bits : Bits) : Prop :=
  UnpackedFloat.unpackExponent bits = 0 ∧ UnpackedFloat.unpackMantissa bits = 0

theorem clear_pack_neg {unpacked : UnpackedFloat} :
    Clear (UnpackedFloat.pack .binary64 unpacked.neg) ↔ Clear (UnpackedFloat.pack .binary64 unpacked) := by
  cases unpacked with
  | notANumber => rfl
  | infinity sign => simp [Clear, UnpackedFloat.neg, UnpackedFloat.pack, UnpackedFloat.packedInfinity]
  | zero sign => simp [Clear, UnpackedFloat.neg, UnpackedFloat.pack, UnpackedFloat.packedZero]
  | finite sign mantissa exponent positive =>
    simp only [UnpackedFloat.neg, UnpackedFloat.pack]
    split
    · simp [Clear, UnpackedFloat.packedInfinity]
    split
    · simp [Clear]
    · simp [Clear]

theorem clear_of_pack_unpack {bits : Bits}
    (clear : Clear (UnpackedFloat.pack .binary64 (UnpackedFloat.unpack .binary64 bits))) : Clear bits := by
  rw [UnpackedFloat.pack_unpack bits] at clear
  split at clear
  · simp [Clear, UnpackedFloat.packedNaN] at clear
  · exact clear

theorem toNat_exponent (bits : Bits) :
    (UnpackedFloat.unpackExponent bits).toNat = bits.toNat / 2 ^ 52 % 2048 := by
  simp [UnpackedFloat.unpackExponent, Nat.shiftRight_eq_div_pow]

theorem toNat_mantissa (bits : Bits) : (UnpackedFloat.unpackMantissa bits).toNat = bits.toNat % 2 ^ 52 := by
  simp [UnpackedFloat.unpackMantissa]

theorem clear_iff {bits : Bits} : Clear bits ↔ bits.toNat % 2 ^ 63 = 0 := by
  have exponent := toNat_exponent bits
  have mantissa := toNat_mantissa bits
  rw [Clear, ← BitVec.toNat_inj, ← BitVec.toNat_inj, exponent, mantissa]
  simp only [BitVec.ofNat_eq_ofNat, BitVec.toNat_ofNat, Nat.zero_mod]
  omega

theorem eq_zero_of_beq {x : Float} (equal : (x == 0.0) = true) : x = 0.0 ∨ x = -0.0 := by
  obtain ⟨_, _, same | ⟨same, _⟩ | ⟨same, _⟩⟩ := Float.beq_iff_ne_nan_and_eq.mp equal
  · exact Or.inl same
  · exact Or.inl same
  · exact Or.inr same

theorem clear_of_beq {x : Float} (equal : (x == 0.0) = true) : Clear x.toBits.toBitVec := by
  rcases eq_zero_of_beq equal with rfl | rfl
  · exact ⟨rfl, rfl⟩
  · exact ⟨rfl, rfl⟩

theorem clear_of_neg {x : Float} (clear : Clear (-x).toBits.toBitVec) : Clear x.toBits.toBitVec :=
  clear_of_pack_unpack (clear_pack_neg.mp clear)

theorem clear_of_ofBits {bits : UInt64} (clear : Clear (Float.ofBits bits).toBits.toBitVec) :
    Clear bits.toBitVec :=
  clear_of_pack_unpack clear

theorem binaryExponent_one {number : Nat} (positive : 0 < number) :
    binaryExponent number 1 = Nat.log2 number := by
  have below : 2 ^ Nat.log2 number ≤ number := Nat.log2_self_le (by omega)
  have guess : ((Nat.log2 number : Int) - (Nat.log2 1 : Nat)) = Nat.log2 number := by
    simp [show Nat.log2 1 = 0 from rfl]
  unfold binaryExponent
  simp only [guess]
  exact if_pos (by simpa using below)

theorem div_le_roundDiv (numerator denominator : Nat) :
    numerator / denominator ≤ roundDiv numerator denominator := by
  unfold roundDiv
  simp only
  split
  · omega
  split
  · omega
  · omega

theorem roundDiv_le (numerator denominator : Nat) :
    roundDiv numerator denominator ≤ numerator / denominator + 1 := by
  unfold roundDiv
  simp only
  split
  · omega
  split
  · omega
  · omega

theorem not_clear_ofBits {bits : Nat} (positive : 0 < bits) (small : bits < 2 ^ 63) :
    ¬Clear (Float.ofBits bits.toUInt64).toBits.toBitVec := by
  intro clear
  have rest : bits.toUInt64.toNat % 2 ^ 63 = 0 := clear_iff.mp (clear_of_ofBits clear)
  have bound : bits % 2 ^ 64 = bits := Nat.mod_eq_of_lt (by omega)
  simp only [UInt64.toNat_ofNat', Nat.toUInt64_eq, bound] at rest
  omega

theorem not_clear_infinity : ¬Clear infinity.toBits.toBitVec :=
  not_clear_ofBits (show 0 < 0x7FF0000000000000 by decide) (by decide)

theorem not_clear_assemble {mantissa : Nat} {exponent : Int} (full : 2 ^ 52 ≤ mantissa)
    (bounded : mantissa ≤ 2 ^ 53) (least : -52 ≤ exponent) : ¬Clear (assemble mantissa exponent).toBits.toBitVec := by
  unfold assemble
  split
  next few =>
    have few : mantissa < 2 ^ 52 := few
    omega
  split
  · split
    · exact not_clear_infinity
    · refine not_clear_ofBits (show 0 < _ * 2 ^ 52 by omega) (show _ * 2 ^ 52 < _ by omega)
  split
  · exact not_clear_infinity
  next few notFull small =>
    have notFull : ¬mantissa = 2 ^ 53 := notFull
    obtain ⟨biased, equal⟩ : ∃ biased, (exponent + 1075).toNat = biased := ⟨_, rfl⟩
    rw [equal]
    have bits : 0 < biased * 2 ^ 52 + (mantissa - 2 ^ 52) ∧ biased * 2 ^ 52 + (mantissa - 2 ^ 52) < 2 ^ 63 := by
      omega
    exact not_clear_ofBits bits.1 bits.2

theorem shifted_bounds {number bits : Nat} (below : 2 ^ bits ≤ number) (above : number < 2 ^ (bits + 1)) :
    2 ^ 52 ≤ number * 2 ^ (52 - bits) / 2 ^ (bits - 52) ∧
      number * 2 ^ (52 - bits) / 2 ^ (bits - 52) < 2 ^ 53 := by
  have exponents : 52 + (bits - 52) = bits + (52 - bits) := by omega
  have lower : 2 ^ 52 * 2 ^ (bits - 52) ≤ number * 2 ^ (52 - bits) := by
    rw [← Nat.pow_add, exponents, Nat.pow_add]
    exact Nat.mul_le_mul_right _ below
  have upper : number * 2 ^ (52 - bits) < 2 ^ 53 * 2 ^ (bits - 52) := by
    rw [← Nat.pow_add, show 53 + (bits - 52) = bits + 1 + (52 - bits) by omega, Nat.pow_add]
    exact Nat.mul_lt_mul_of_pos_right above (Nat.two_pow_pos _)
  exact ⟨(Nat.le_div_iff_mul_le (Nat.two_pow_pos _)).mpr lower,
    (Nat.div_lt_iff_lt_mul (Nat.two_pow_pos _)).mpr upper⟩

theorem not_clear_nearest {number : Nat} (positive : 0 < number) :
    ¬Clear (nearest number 1).toBits.toBitVec := by
  have below : 2 ^ Nat.log2 number ≤ number := Nat.log2_self_le (by omega)
  have above : number < 2 ^ (Nat.log2 number + 1) := Nat.lt_log2_self
  have shifted := shifted_bounds below above
  unfold nearest
  simp only [binaryExponent_one positive]
  rw [if_neg (by omega), Int.max_eq_left (by omega)]
  generalize Nat.log2 number = bits at shifted
  split
  · exact not_clear_infinity
  · rw [show (-((bits : Int) - 52)).toNat = 52 - bits by omega, show ((bits : Int) - 52).toNat = bits - 52 by omega,
      Nat.one_mul]
    have least := div_le_roundDiv (number * 2 ^ (52 - bits)) (2 ^ (bits - 52))
    have greatest := roundDiv_le (number * 2 ^ (52 - bits)) (2 ^ (bits - 52))
    exact not_clear_assemble (Nat.le_trans shifted.1 least) (Nat.le_trans greatest shifted.2) (by omega)

theorem not_clear_nearestInt {number : Int} (nonzero : number ≠ 0) :
    ¬Clear (nearestInt number 1).toBits.toBitVec := by
  have positive : 0 < number.natAbs := by omega
  have magnitude := not_clear_nearest positive
  unfold nearestInt withSign
  split
  · exact fun clear => magnitude (clear_of_neg clear)
  · exact magnitude

end Double

namespace Number

theorem isZero_of_double {x : Float} (equal : (x == 0.0) = true) : (double x).isZero = true := by
  rcases Double.eq_zero_of_beq equal with rfl | rfl
  · decide +kernel
  · decide +kernel

theorem isZero_of_toDouble {number : Number} {x : Float} (converted : number.toDouble = .ok x)
    (zero : (x == 0.0) = true) : number.isZero = true := by
  cases number with
  | double y =>
    cases converted
    exact isZero_of_double zero
  | integer value =>
    by_cases nonzero : value = 0
    · rw [nonzero]
      decide
    · have clear := Double.clear_of_beq zero
      simp only [toDouble, Double.ofInt?] at converted
      split at converted
      next found =>
        split at found
        · cases found
        · cases found
          cases converted
          exact absurd clear (Double.not_clear_nearestInt nonzero)
      next => cases converted

end Number

end Worksheet
