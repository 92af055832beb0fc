import Mathlib
import Worksheet.Number.Basic
import Worksheet.Proofs.Number.Parts

/-! The range of the doubles. A quotient is rounded to an infinity from half a unit below the first power of two that
no double reaches; so these are the integers that do not become doubles, and no integer that does is beyond the range
when it is divided. -/

namespace Worksheet

namespace Double

open Float.Model

theorem isInf_ofBits {bits : ℕ} (finite : bits / 2 ^ 52 % 2048 ≠ 2047) (bounded : bits < 2 ^ 64) :
    (Float.ofBits bits.toUInt64).isInf = false :=
  isInf_of_isFinite (isFinite_ofBits finite bounded)

theorem isInf_infinity : infinity.isInf = true := by
  decide +kernel

theorem unpack_pack_neg (unpacked : UnpackedFloat) :
    UnpackedFloat.unpackExponent (UnpackedFloat.pack .binary64 unpacked.neg) =
        UnpackedFloat.unpackExponent (UnpackedFloat.pack .binary64 unpacked) ∧
      UnpackedFloat.unpackMantissa (UnpackedFloat.pack .binary64 unpacked.neg) =
        UnpackedFloat.unpackMantissa (UnpackedFloat.pack .binary64 unpacked) := by
  cases unpacked with
  | notANumber => exact ⟨rfl, rfl⟩
  | infinity sign => simp [UnpackedFloat.neg, UnpackedFloat.pack, UnpackedFloat.packedInfinity]
  | zero sign => simp [UnpackedFloat.neg, UnpackedFloat.pack, UnpackedFloat.packedZero]
  | finite sign mantissa exponent positive =>
    simp only [UnpackedFloat.neg, UnpackedFloat.pack]
    split
    · simp [UnpackedFloat.packedInfinity]
    split
    · simp
    · simp

theorem isInf_unpack (bits : Bits) :
    (UnpackedFloat.unpack .binary64 bits).isInf = true ↔
      UnpackedFloat.unpackExponent bits = -1#11 ∧ UnpackedFloat.unpackMantissa bits = 0 := by
  unfold UnpackedFloat.unpack
  simp only
  split
  next extreme =>
    split
    next clear => simp [UnpackedFloat.isInf, extreme, clear]
    next set => simp [UnpackedFloat.isInf, extreme, set]
  next inside =>
    split
    · split
      · exact iff_of_false Bool.false_ne_true fun both => inside both.1
      · exact iff_of_false Bool.false_ne_true fun both => inside both.1
    · exact iff_of_false Bool.false_ne_true fun both => inside both.1

theorem isInf_neg (x : Float) : (-x).isInf = x.isInf := by
  have own : UnpackedFloat.pack .binary64 x.toModel.unpack = x.toBits.toBitVec :=
    UnpackedFloat.pack_unpack_of_valid x.toModel.valid
  obtain ⟨exponent, mantissa⟩ := unpack_pack_neg x.toModel.unpack
  rw [own] at exponent mantissa
  rw [Bool.eq_iff_iff]
  change (UnpackedFloat.unpack .binary64 (UnpackedFloat.pack .binary64 x.toModel.unpack.neg)).isInf = true ↔
    (UnpackedFloat.unpack .binary64 x.toBits.toBitVec).isInf = true
  rw [isInf_unpack, isInf_unpack, exponent, mantissa]

theorem isInf_assemble {mantissa : ℕ} {exponent : ℤ} (bounded : mantissa ≤ 2 ^ 53) (greatest : exponent ≤ 971) :
    (assemble mantissa exponent).isInf = true ↔ mantissa = 2 ^ 53 ∧ exponent = 971 := by
  unfold assemble
  simp only [Nat.pow_eq]
  split
  · rw [isInf_ofBits (by omega) (by omega)]
    exact iff_of_false Bool.false_ne_true (by omega)
  split
  · split
    · exact iff_of_true isInf_infinity (by omega)
    · rw [isInf_ofBits (by omega) (by omega)]
      exact iff_of_false Bool.false_ne_true (by omega)
  split
  · omega
  · rw [isInf_ofBits (by omega) (by omega)]
    exact iff_of_false Bool.false_ne_true (by omega)

/-- Below a power of two a number is rounded to it from half a unit on. -/
theorem RoundsTo.eq_iff {x : ℚ} {whole : ℕ} (near : RoundsTo x whole) (below : x < 2 ^ 53) :
    whole = 2 ^ 53 ↔ (2 : ℚ) ^ 53 - 1 / 2 ≤ x := by
  constructor
  · rintro rfl
    have low := near.bounds.1
    push_cast at low
    exact low
  · intro reached
    have least : 2 ^ 53 < whole + 2 := by
      have high : ((2 ^ 53 : ℕ) : ℚ) < (whole + 2 : ℕ) := by push_cast; linarith [near.bounds.2]
      exact Nat.cast_lt.mp high
    have most : whole < 2 ^ 53 + 1 := by
      have low : (whole : ℚ) < (2 ^ 53 + 1 : ℕ) := by push_cast; linarith [near.bounds.1]
      exact Nat.cast_lt.mp low
    rcases near with ⟨-, high⟩ | ⟨even, -⟩
    · have above : ((2 ^ 53 : ℕ) : ℚ) < (whole + 1 : ℕ) := by push_cast; linarith
      have more := Nat.cast_lt.mp above
      omega
    · omega

/-- Half a unit of the last place below the first power of two beyond the doubles. -/
def bound : ℕ := (2 ^ 54 - 1) * 2 ^ 970

theorem cast_bound : (bound : ℚ) = (2 ^ 53 - 1 / 2) * 2 ^ (971 : ℤ) := by
  have half : (2 : ℚ) ^ (971 : ℤ) = 2 ^ 970 * 2 := by
    rw [← zpow_natCast, ← zpow_add_one₀ (by norm_num)]
    rfl
  rw [bound, Nat.cast_mul, Nat.cast_pow, half, Nat.cast_ofNat]
  generalize (2 : ℚ) ^ 970 = power
  norm_num
  ring

theorem bound_between : (2 : ℚ) ^ (1023 : ℤ) ≤ bound ∧ (bound : ℚ) ≤ 2 ^ (1024 : ℤ) := by
  have low : (2 : ℚ) ^ (1023 : ℤ) = 2 ^ 52 * 2 ^ (971 : ℤ) := by
    rw [← zpow_natCast, ← zpow_add₀ (by norm_num)]
    rfl
  have high : (2 : ℚ) ^ (1024 : ℤ) = 2 ^ 53 * 2 ^ (971 : ℤ) := by
    rw [← zpow_natCast, ← zpow_add₀ (by norm_num)]
    rfl
  have power : (0 : ℚ) < 2 ^ (971 : ℤ) := by positivity
  rw [cast_bound, low, high]
  generalize (2 : ℚ) ^ (971 : ℤ) = unit at power
  constructor
  · nlinarith
  · nlinarith

theorem isInf_nearest (numerator : ℕ) {denominator : ℕ} (positive : 0 < denominator) :
    (nearest numerator denominator).isInf = true ↔ (bound : ℚ) ≤ numerator / denominator := by
  obtain ⟨boundLow, boundHigh⟩ := bound_between
  rcases Nat.eq_zero_or_pos numerator with rfl | some
  · have none : (0.0 : Float).isInf = false := by decide +kernel
    rw [nearest, if_pos rfl, none, Nat.cast_zero, zero_div]
    have positive : (0 : ℚ) < bound := lt_of_lt_of_le (by positivity) boundLow
    exact iff_of_false Bool.false_ne_true positive.not_ge
  rcases nearest_cases some positive with ⟨beyond, reached⟩ | ⟨mantissa, exponent, rounded, assembled⟩
  · rw [beyond]
    exact iff_of_true isInf_infinity (boundHigh.trans reached)
  · rw [assembled, isInf_assemble rounded.bounded rounded.greatest, rounded.roundsTo.eq_iff rounded.below,
      le_div_iff₀ (by positivity)]
    constructor
    · rintro ⟨near, rfl⟩
      exact cast_bound.trans_le near
    · intro reached
      have last : exponent = 971 := by
        by_contra smaller
        have least := rounded.greatest
        have under : (numerator : ℚ) / denominator < 2 ^ (1023 : ℤ) :=
          ((places_compare _ exponent 53).2.mpr rounded.below).trans_le (zpow_le_zpow_right₀ (by norm_num) (by omega))
        exact absurd (boundLow.trans reached) under.not_ge
      subst last
      exact ⟨cast_bound.ge.trans reached, rfl⟩

theorem isInf_withSign (negative : Bool) (x : Float) : (withSign negative x).isInf = x.isInf := by
  unfold withSign
  split
  · exact isInf_neg x
  · rfl

theorem isInf_nearestInt (numerator : ℤ) {denominator : ℕ} (positive : 0 < denominator) :
    (nearestInt numerator denominator).isInf = true ↔ (bound : ℚ) ≤ numerator.natAbs / denominator := by
  rw [nearestInt, isInf_withSign, isInf_nearest _ positive]

theorem ofInt?_eq_none {value : ℤ} : ofInt? value = none ↔ bound ≤ value.natAbs := by
  have infinite := isInf_nearestInt value (show 0 < 1 by decide)
  rw [Nat.cast_one, div_one, Nat.cast_le] at infinite
  unfold ofInt?
  simp only
  split
  next reached => exact iff_of_true rfl (infinite.mp reached)
  next within => exact iff_of_false nofun fun reached => within (infinite.mpr reached)

end Double

namespace Number

variable {value : ℤ} {failure : Failure}

theorem toDouble_eq_error :
    (integer value).toDouble = .error failure ↔ failure = .outOfRange ∧ Double.bound ≤ value.natAbs := by
  rw [toDouble, ← Double.ofInt?_eq_none]
  cases Double.ofInt? value with
  | none => simp [eq_comm]
  | some x => simp

theorem isFinite_of_large (large : Double.bound ≤ value.natAbs) : (integer value).isFinite = .error .outOfRange := by
  rw [isFinite, toDouble_eq_error.mpr ⟨rfl, large⟩]
  rfl

theorem isFinite_of_small (small : value.natAbs < Double.bound) : (integer value).isFinite = .ok true := by
  rw [isFinite]
  cases converted : (integer value).toDouble with
  | error failure => exact absurd (toDouble_eq_error.mp converted).2 small.not_ge
  | ok x => rfl

theorem exists_div_of_small (small : value.natAbs < Double.bound) {divisor : ℤ} (positive : 0 < divisor) :
    ∃ quotient, (integer value).div (integer divisor) = .ok (double quotient) := by
  have scale : 0 < divisor.natAbs := Int.natAbs_pos.mpr positive.ne'
  have inside : ¬(Double.nearestInt (value * divisor.sign) divisor.natAbs).isInf = true := by
    rw [Double.isInf_nearestInt _ scale, Int.sign_eq_one_of_pos positive, mul_one, not_le]
    have shrunk : (value.natAbs : ℚ) / divisor.natAbs ≤ value.natAbs :=
      div_le_self (Nat.cast_nonneg _) (by exact_mod_cast scale)
    exact shrunk.trans_lt (Nat.cast_lt.mpr small)
  simp only [div, if_neg positive.ne', if_neg inside]
  split
  · exact ⟨_, rfl⟩
  · exact ⟨_, rfl⟩

end Number

end Worksheet
