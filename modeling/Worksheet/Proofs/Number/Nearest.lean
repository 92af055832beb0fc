import Worksheet.Proofs.Number.Range

/-! The exact values of doubles. A quotient is rounded to a double that no other double is closer to, and to within
one part in `2 ^ 53` of it. From there follows what rounding to decimal places does to the integers around a double.
-/

namespace Worksheet.Double

def toRat (x : Float) : ℚ :=
  numerator x / denominator x

def IsDouble (value : ℚ) : Prop :=
  ∃ mantissa exponent : ℤ, |mantissa| < 2 ^ 53 ∧ -1074 ≤ exponent ∧ exponent ≤ 971 ∧ value = mantissa * 2 ^ exponent

/-- A double that no other double is closer to the number than. -/
structure IsNearest (x value : ℚ) : Prop where
  isDouble : IsDouble value
  closest : ∀ other, IsDouble other → |value - x| ≤ |other - x|

/-! ## Values -/

theorem isDouble_of_small {number : ℤ} (small : |number| < 2 ^ 53) : IsDouble number :=
  ⟨number, 0, small, by decide, by decide, by simp⟩

theorem IsDouble.neg {value : ℚ} (isDouble : IsDouble value) : IsDouble (-value) := by
  obtain ⟨mantissa, exponent, small, least, greatest, rfl⟩ := isDouble
  refine ⟨-mantissa, exponent, by rwa [abs_neg], least, greatest, ?_⟩
  push_cast
  ring

theorem IsNearest.neg {x value : ℚ} (near : IsNearest x value) : IsNearest (-x) (-value) := by
  refine ⟨near.isDouble.neg, fun other isDouble => ?_⟩
  have closest := near.closest (-other) isDouble.neg
  rwa [← neg_sub', abs_neg, ← abs_neg (other - -x), show -(other - -x) = -other - x by ring]

/-- Doubles are integers from `2 ^ 52` on. -/
theorem IsDouble.integer_or_small {value : ℚ} (isDouble : IsDouble value) :
    (∃ whole : ℤ, value = whole) ∨ |value| < 2 ^ 52 := by
  obtain ⟨mantissa, exponent, small, -, -, rfl⟩ := isDouble
  rcases le_or_gt 0 exponent with whole | fraction
  · refine Or.inl ⟨mantissa * 2 ^ exponent.toNat, ?_⟩
    push_cast
    rw [← zpow_natCast, Int.toNat_of_nonneg whole]
  · right
    have half : (2 : ℚ) ^ exponent ≤ 2 ^ (-1 : ℤ) := zpow_le_zpow_right₀ (by norm_num) (by omega)
    have cast : |(mantissa : ℚ)| < 2 ^ 53 := by exact_mod_cast small
    have power : (0 : ℚ) < 2 ^ exponent := by positivity
    rw [abs_mul, abs_of_pos power]
    calc |(mantissa : ℚ)| * 2 ^ exponent < 2 ^ 53 * 2 ^ exponent := by gcongr
      _ ≤ 2 ^ 53 * 2 ^ (-1 : ℤ) := by gcongr
      _ = 2 ^ 52 := by norm_num

/-! ## The parts of a double as its value -/

theorem toRat_eq (x : Float) :
    toRat x = (if (parts x).negative then -1 else 1) * ((parts x).mantissa * 2 ^ (parts x).exponent) := by
  have power : (2 : ℚ) ^ (-(parts x).exponent).toNat ≠ 0 := by positivity
  have scale := two_pow_toNat (parts x).exponent
  rw [toRat, numerator, denominator]
  simp only [Nat.pow_eq]
  rw [div_eq_iff (by exact_mod_cast power)]
  split
  · push_cast
    rw [scale]
    ring
  · push_cast
    rw [scale]
    ring

theorem parts_bounds {x : Float} (finite : x.isFinite = true) :
    (parts x).mantissa < 2 ^ 53 ∧ -1074 ≤ (parts x).exponent ∧ (parts x).exponent ≤ 971 := by
  have inside := isFinite_iff.mp finite
  rcases parts_cases x with ⟨clear, mantissa, exponent⟩ | ⟨set, mantissa, exponent⟩
  · exact ⟨by omega, by omega, by omega⟩
  · exact ⟨by omega, by omega, by omega⟩

theorem isDouble_toRat {x : Float} (finite : x.isFinite = true) : IsDouble (toRat x) := by
  obtain ⟨small, least, greatest⟩ := parts_bounds finite
  have magnitude : IsDouble ((parts x).mantissa * 2 ^ (parts x).exponent) :=
    ⟨(parts x).mantissa, (parts x).exponent, by rw [Nat.abs_cast]; exact_mod_cast small, least, greatest, by simp⟩
  rw [toRat_eq]
  split
  · rw [neg_one_mul]
    exact magnitude.neg
  · rwa [one_mul]

theorem floor_eq (x : Float) : floor x = ⌊toRat x⌋ := by
  rw [floor, toRat, Rat.floor_intCast_div_natCast, Int.fdiv_eq_ediv_of_nonneg _ (Int.natCast_nonneg _)]

theorem ceiling_eq (x : Float) : ceiling x = ⌈toRat x⌉ := by
  have opposite : -toRat x = (-numerator x : ℤ) / denominator x := by
    rw [toRat]
    push_cast
    ring
  rw [ceiling, ← neg_neg (toRat x), Int.ceil_neg, opposite, Rat.floor_intCast_div_natCast,
    Int.fdiv_eq_ediv_of_nonneg _ (Int.natCast_nonneg _)]

/-! ## Packed doubles -/

structure Packs (x : Float) (bits : ℕ) : Prop where
  eq : x = Float.ofBits bits.toUInt64
  unsigned : bits < 2 ^ 63
  finite : bits / 2 ^ 52 % 2048 ≠ 2047

variable {x : Float} {bits : ℕ}

theorem parts_ofBits (finite : bits / 2 ^ 52 % 2048 ≠ 2047) (bounded : bits < 2 ^ 64) :
    parts (Float.ofBits bits.toUInt64) = if bits / 2 ^ 52 % 2048 = 0 then ⟨bits / 2 ^ 63 == 1, bits % 2 ^ 52, -1074⟩
      else ⟨bits / 2 ^ 63 == 1, 2 ^ 52 + bits % 2 ^ 52, (bits / 2 ^ 52 % 2048 : ℕ) - 1075⟩ := by
  unfold parts
  simp only [Nat.pow_eq, toBits_ofBits finite bounded]

namespace Packs

variable (packs : Packs x bits)

include packs

theorem isFinite : x.isFinite = true := by
  rw [packs.eq]
  exact isFinite_ofBits packs.finite (packs.unsigned.trans (by decide))

theorem parts_eq : parts x = if bits / 2 ^ 52 = 0 then ⟨false, bits, -1074⟩
    else ⟨false, 2 ^ 52 + bits % 2 ^ 52, (bits / 2 ^ 52 : ℕ) - 1075⟩ := by
  have unsigned := packs.unsigned
  have exponent : bits / 2 ^ 52 % 2048 = bits / 2 ^ 52 := by omega
  have positive : (bits / 2 ^ 63 == 1) = false := by
    rw [beq_eq_false_iff_ne]
    omega
  rw [packs.eq, parts_ofBits packs.finite (unsigned.trans (by decide)), exponent, positive]
  split
  next clear => rw [Nat.mod_eq_of_lt (show bits < 2 ^ 52 by omega)]
  next => rfl

theorem negative_parts : (parts x).negative = false := by
  rw [packs.parts_eq]
  split
  · rfl
  · rfl

theorem toRat_parts : toRat x = (parts x).mantissa * 2 ^ (parts x).exponent := by
  rw [toRat_eq, packs.negative_parts]
  simp

theorem neg_eq : -x = Float.ofBits (bits + 2 ^ 63).toUInt64 := by
  have unsigned := packs.unsigned
  have finite := packs.finite
  have bounded : bits + 2 ^ 63 < 2 ^ 64 := by omega
  have exponent : (bits + 2 ^ 63) / 2 ^ 52 % 2048 ≠ 2047 := by omega
  have own := toBits_ofBits exponent bounded
  have signed := withSign_magnitude (isFinite_ofBits exponent bounded)
  have negative : isNegative (Float.ofBits (bits + 2 ^ 63).toUInt64) = true := by
    rw [isNegative, own, Nat.pow_eq, beq_iff_eq]
    omega
  have rest : magnitude (Float.ofBits (bits + 2 ^ 63).toUInt64) = bits := by
    rw [magnitude, own]
    omega
  rw [negative, rest, ← packs.eq] at signed
  exact signed

theorem parts_neg : parts (-x) = { parts x with negative := true } := by
  have unsigned := packs.unsigned
  have finite := packs.finite
  have exponent : (bits + 2 ^ 63) / 2 ^ 52 % 2048 = bits / 2 ^ 52 := by omega
  have mantissa : (bits + 2 ^ 63) % 2 ^ 52 = bits % 2 ^ 52 := by omega
  have negative : ((bits + 2 ^ 63) / 2 ^ 63 == 1) = true := by
    rw [beq_iff_eq]
    omega
  rw [packs.neg_eq, parts_ofBits (by omega) (by omega), packs.parts_eq, exponent, mantissa, negative]
  split
  next clear => rw [Nat.mod_eq_of_lt (show bits < 2 ^ 52 by omega)]
  next => rfl

theorem toRat_neg : toRat (-x) = -toRat x := by
  rw [toRat_eq, packs.parts_neg, packs.toRat_parts]
  simp

theorem isFinite_neg : (-x).isFinite = true := by
  have unsigned := packs.unsigned
  have finite := packs.finite
  rw [packs.neg_eq]
  exact isFinite_ofBits (by omega) (by omega)

theorem toRat_withSign (negative : Bool) : toRat (withSign negative x) = (if negative then -1 else 1) * toRat x := by
  cases negative with
  | true => exact packs.toRat_neg.trans (neg_one_mul _).symm
  | false => exact (one_mul _).symm

theorem isFinite_withSign (negative : Bool) : (withSign negative x).isFinite = true := by
  cases negative with
  | true => exact packs.isFinite_neg
  | false => exact packs.isFinite

end Packs

/-! ## The double nearest to a quotient -/

theorem packs_assemble {mantissa : ℕ} {exponent : ℤ} (bounded : mantissa ≤ 2 ^ 53) (least : -1074 ≤ exponent)
    (greatest : exponent ≤ 971) (full : 2 ^ 52 ≤ mantissa ∨ exponent = -1074)
    (inside : ¬(mantissa = 2 ^ 53 ∧ exponent = 971)) :
    (∃ bits, Packs (assemble mantissa exponent) bits) ∧ toRat (assemble mantissa exponent) = mantissa * 2 ^ exponent := by
  unfold assemble
  simp only [Nat.pow_eq]
  split
  next few =>
    have packs : Packs (Float.ofBits mantissa.toUInt64) mantissa := ⟨rfl, by omega, by omega⟩
    refine ⟨⟨_, packs⟩, ?_⟩
    rw [packs.toRat_parts, packs.parts_eq, if_pos (by omega), full.resolve_left (by omega)]
  split
  next carried =>
    rw [if_neg (by omega)]
    have packs : Packs (Float.ofBits ((exponent + 1076).toNat * 2 ^ 52).toUInt64) ((exponent + 1076).toNat * 2 ^ 52) :=
      ⟨rfl, by omega, by omega⟩
    have place : (((exponent + 1076).toNat * 2 ^ 52 / 2 ^ 52 : ℕ) : ℤ) - 1075 = exponent + 1 := by omega
    refine ⟨⟨_, packs⟩, ?_⟩
    rw [packs.toRat_parts, packs.parts_eq, if_neg (by omega)]
    simp only [place, Nat.mul_mod_left, carried]
    rw [zpow_add_one₀ (by norm_num)]
    push_cast
    ring
  next within =>
    rw [if_neg (by omega)]
    have packs : Packs (Float.ofBits ((exponent + 1075).toNat * 2 ^ 52 + (mantissa - 2 ^ 52)).toUInt64)
        ((exponent + 1075).toNat * 2 ^ 52 + (mantissa - 2 ^ 52)) := ⟨rfl, by omega, by omega⟩
    have place : ((((exponent + 1075).toNat * 2 ^ 52 + (mantissa - 2 ^ 52)) / 2 ^ 52 : ℕ) : ℤ) - 1075 = exponent := by omega
    have digits : 2 ^ 52 + ((exponent + 1075).toNat * 2 ^ 52 + (mantissa - 2 ^ 52)) % 2 ^ 52 = mantissa := by omega
    refine ⟨⟨_, packs⟩, ?_⟩
    rw [packs.toRat_parts, packs.parts_eq, if_neg (by omega)]
    simp only [place, digits]

section Quotient

variable {numerator denominator : ℕ} (positive : 0 < denominator) (within : (numerator : ℚ) / denominator < bound)

include positive within

theorem exists_rounded : (∃ bits, Packs (nearest numerator denominator) bits) ∧ ∃ mantissa exponent,
    Rounded (numerator / denominator) mantissa exponent ∧ toRat (nearest numerator denominator) = mantissa * 2 ^ exponent := by
  rcases Nat.eq_zero_or_pos numerator with rfl | some
  · have packs : Packs (nearest 0 denominator) 0 := ⟨by rw [nearest, if_pos rfl]; decide +kernel, by decide, by decide⟩
    refine ⟨⟨0, packs⟩, 0, -1074, ⟨Or.inl ⟨by simp, by simp⟩, by decide, by simp, Or.inr rfl, le_rfl, by decide⟩, ?_⟩
    rw [packs.toRat_parts, packs.parts_eq]
    rfl
  have finite : ¬(nearest numerator denominator).isInf = true := by
    rw [isInf_nearest _ positive]
    exact within.not_ge
  rcases nearest_cases some positive with ⟨beyond, _⟩ | ⟨mantissa, exponent, rounded, assembled⟩
  · rw [beyond] at finite
    exact absurd isInf_infinity finite
  · rw [assembled, isInf_assemble rounded.bounded rounded.greatest] at finite
    have bits : 2 ^ 52 ≤ mantissa ∨ exponent = -1074 := by
      refine rounded.full.imp_left fun enough => ?_
      have reached : (2 : ℚ) ^ 52 < mantissa + 1 := by linarith [(abs_le.mp rounded.near).1]
      exact Nat.lt_succ_iff.mp (by exact_mod_cast reached)
    rw [assembled]
    obtain ⟨packs, value⟩ := packs_assemble rounded.bounded rounded.least rounded.greatest bits finite
    exact ⟨packs, mantissa, exponent, rounded, value⟩

end Quotient

theorem closest_integer {x : ℚ} {rounded : ℤ} (near : |rounded - x| ≤ 1 / 2) (whole : ℤ) : |rounded - x| ≤ |whole - x| := by
  by_cases same : whole = rounded
  · rw [same]
  · have apart : (1 : ℚ) ≤ |(whole : ℚ) - rounded| := by
      exact_mod_cast Int.one_le_abs (sub_ne_zero.mpr same)
    have triangle := abs_sub_le (whole : ℚ) x rounded
    rw [abs_sub_comm x] at triangle
    linarith

theorem distance_places (number other : ℚ) (exponent : ℤ) :
    |other - number| = |other / 2 ^ exponent - number / 2 ^ exponent| * 2 ^ exponent := by
  have power : (0 : ℚ) < 2 ^ exponent := by positivity
  rw [← sub_div, abs_div, abs_of_pos power, div_mul_cancel₀ _ power.ne']

namespace Rounded

variable {number : ℚ} {mantissa : ℕ} {exponent : ℤ} (rounded : Rounded number mantissa exponent)

include rounded

/-- Doubles of this exponent or a greater one are whole multiples of its power, and all others are smaller than any
mantissa that has all its bits. -/
theorem closest (other : ℚ) (isDouble : IsDouble other) : |mantissa * 2 ^ exponent - number| ≤ |other - number| := by
  have power : (0 : ℚ) < 2 ^ exponent := by positivity
  have near : |((mantissa : ℤ) : ℚ) - number / 2 ^ exponent| ≤ 1 / 2 := by exact_mod_cast rounded.near
  obtain ⟨digits, place, small, least, -, rfl⟩ := isDouble
  have shifted : (digits * 2 ^ place : ℚ) / 2 ^ exponent = digits * 2 ^ (place - exponent) := by
    rw [zpow_sub₀ (by norm_num), mul_div_assoc]
  rw [distance_places _ _ exponent, distance_places _ (digits * 2 ^ place) exponent, mul_div_cancel_right₀ _ power.ne', shifted]
  refine mul_le_mul_of_nonneg_right ?_ power.le
  rcases le_or_gt exponent place with multiple | finer
  · have whole := closest_integer near (digits * 2 ^ (place - exponent).toNat)
    push_cast at whole
    rwa [← zpow_natCast, Int.toNat_of_nonneg (by omega)] at whole
  · have leading := rounded.full.resolve_right (by omega)
    have half : (2 : ℚ) ^ (place - exponent) ≤ 2 ^ (-1 : ℤ) := zpow_le_zpow_right₀ (by norm_num) (by omega)
    have below : digits * 2 ^ (place - exponent) ≤ (2 : ℚ) ^ 52 := by
      have cast : (digits : ℚ) ≤ 2 ^ 53 := by exact_mod_cast (le_abs_self digits).trans small.le
      calc (digits : ℚ) * 2 ^ (place - exponent) ≤ 2 ^ 53 * 2 ^ (place - exponent) := by gcongr
        _ ≤ 2 ^ 53 * 2 ^ (-1 : ℤ) := by gcongr
        _ = 2 ^ 52 := by norm_num
    obtain ⟨leadingBit, value⟩ : ∃ leadingBit : ℤ, (leadingBit : ℚ) = 2 ^ 52 := ⟨2 ^ 52, Int.cast_pow 2 52⟩
    have whole := closest_integer near leadingBit
    rw [Int.cast_natCast, value, abs_sub_comm ((2 : ℚ) ^ 52), abs_of_nonneg (sub_nonneg.mpr leading)] at whole
    rw [abs_sub_comm ((digits : ℚ) * 2 ^ (place - exponent)), abs_of_nonneg (sub_nonneg.mpr (below.trans leading))]
    linarith

theorem error_le (normal : 2 ^ (-1022 : ℤ) ≤ number) : |mantissa * 2 ^ exponent - number| ≤ number / 2 ^ 53 := by
  have power : (0 : ℚ) < 2 ^ exponent := by positivity
  have leading : (2 : ℚ) ^ 52 ≤ number / 2 ^ exponent := by
    rcases rounded.full with enough | same
    · exact enough
    · rw [← (places_compare _ exponent 52).1, same]
      exact normal
  have near := rounded.near
  rw [le_div_iff₀ power] at leading
  rw [distance_places _ _ exponent, mul_div_cancel_right₀ _ power.ne']
  have step := mul_le_mul_of_nonneg_right near power.le
  linarith

end Rounded

section Signed

variable {numerator denominator : ℕ} (positive : 0 < denominator) (within : (numerator : ℚ) / denominator < bound)

include positive within

theorem isNearest_nearest : IsNearest (numerator / denominator) (toRat (nearest numerator denominator)) := by
  obtain ⟨⟨bits, packs⟩, mantissa, exponent, rounded, value⟩ := exists_rounded positive within
  refine ⟨isDouble_toRat packs.isFinite, fun other isDouble => ?_⟩
  rw [value]
  exact rounded.closest other isDouble

theorem nearest_error_le (normal : (2 : ℚ) ^ (-1022 : ℤ) ≤ numerator / denominator) :
    |toRat (nearest numerator denominator) - numerator / denominator| ≤ numerator / denominator / 2 ^ 53 := by
  obtain ⟨-, mantissa, exponent, rounded, value⟩ := exists_rounded positive within
  rw [value]
  exact rounded.error_le normal

theorem toRat_withSign_nearest (negative : Bool) :
    toRat (withSign negative (nearest numerator denominator)) =
      (if negative then -1 else 1) * toRat (nearest numerator denominator) := by
  obtain ⟨⟨bits, packs⟩, -⟩ := exists_rounded positive within
  exact packs.toRat_withSign negative

theorem isFinite_withSign_nearest (negative : Bool) : (withSign negative (nearest numerator denominator)).isFinite = true := by
  obtain ⟨⟨bits, packs⟩, -⟩ := exists_rounded positive within
  exact packs.isFinite_withSign negative

theorem isNearest_withSign (negative : Bool) :
    IsNearest ((if negative then -1 else 1) * (numerator / denominator))
      (toRat (withSign negative (nearest numerator denominator))) := by
  rw [toRat_withSign_nearest positive within]
  have near := isNearest_nearest positive within
  cases negative with
  | true => simpa using near.neg
  | false => simpa using near

end Signed

section Integers

variable {numerator : ℤ} {denominator : ℕ} (positive : 0 < denominator)
  (within : (numerator.natAbs : ℚ) / denominator < bound)

theorem signed_quotient (numerator : ℤ) (denominator : ℕ) :
    ((if (decide (numerator < 0)) = true then -1 else 1) * (numerator.natAbs / denominator) : ℚ) = numerator / denominator := by
  rw [Nat.cast_natAbs]
  by_cases negative : numerator < 0
  · rw [abs_of_neg negative]
    simp [negative, neg_div]
  · rw [abs_of_nonneg (not_lt.mp negative)]
    simp [negative]

include positive within

theorem isNearest_nearestInt : IsNearest (numerator / denominator) (toRat (nearestInt numerator denominator)) := by
  rw [← signed_quotient, nearestInt]
  exact isNearest_withSign positive within _

theorem nearestInt_error_le (normal : (2 : ℚ) ^ (-1022 : ℤ) ≤ numerator.natAbs / denominator) :
    |toRat (nearestInt numerator denominator) - numerator / denominator| ≤ numerator.natAbs / denominator / 2 ^ 53 := by
  have error := nearest_error_le positive within normal
  rw [← signed_quotient, nearestInt, toRat_withSign_nearest positive within, ← mul_sub, abs_mul]
  split
  · simpa using error
  · simpa using error

end Integers

end Worksheet.Double
