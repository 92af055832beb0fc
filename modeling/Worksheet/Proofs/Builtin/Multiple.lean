import Worksheet.Builtin.Arithmetic
import Worksheet.Proofs.Number.Places

/-! Integers rounded to multiples of an integer. The remainder is exact. Rounding to a multiple goes through a
quotient that is a double, to which half a unit of the tenth decimal place is added or from which it is taken. -/

namespace Worksheet

namespace Builtin

open Double (IsDouble IsNearest RoundsAt nearestInt roundPlaces toRat)

def noise : ℚ :=
  1 / (2 * (10 ^ 10 : ℕ))

theorem noise_pos : 0 < noise := by
  norm_num [noise]

variable {number significance : ℤ}

/-! ## Multiples of the significance -/

section Multiples

variable (positive : 1 ≤ significance)

include positive

theorem floor_quotient : ⌊(number : ℚ) / significance⌋ = number / significance := by
  obtain ⟨divisor, rfl⟩ := Int.eq_ofNat_of_zero_le (by omega : 0 ≤ significance)
  rw [Int.cast_natCast, Rat.floor_intCast_div_natCast]

theorem multiple_le_iff {count : ℤ} : count * significance ≤ number ↔ count ≤ ⌊(number : ℚ) / significance⌋ := by
  have cast : (0 : ℚ) < significance := by exact_mod_cast positive
  rw [Int.le_floor, le_div_iff₀ cast]
  exact_mod_cast Iff.rfl

theorem le_multiple_iff {count : ℤ} : number ≤ count * significance ↔ ⌈(number : ℚ) / significance⌉ ≤ count := by
  have cast : (0 : ℚ) < significance := by exact_mod_cast positive
  rw [Int.ceil_le, div_le_iff₀ cast]
  exact_mod_cast Iff.rfl

theorem lt_next_multiple : number < (⌊(number : ℚ) / significance⌋ + 1) * significance := by
  rw [← not_le, multiple_le_iff positive]
  exact (Int.lt_succ_self _).not_ge

theorem isGreatest_iff (multiple : ℤ) :
    IsGreatest {other | significance ∣ other ∧ other ≤ number} (multiple * significance) ↔
      multiple = ⌊(number : ℚ) / significance⌋ := by
  have greatest : IsGreatest {other | significance ∣ other ∧ other ≤ number}
      (⌊(number : ℚ) / significance⌋ * significance) := by
    refine ⟨⟨dvd_mul_left _ _, (multiple_le_iff positive).mpr le_rfl⟩, ?_⟩
    rintro _ ⟨⟨count, rfl⟩, within⟩
    rw [mul_comm significance] at within ⊢
    exact mul_le_mul_of_nonneg_right ((multiple_le_iff positive).mp within) (by omega)
  constructor
  · intro own
    exact mul_right_cancel₀ (by omega) (own.unique greatest)
  · rintro rfl
    exact greatest

theorem isLeast_iff (multiple : ℤ) :
    IsLeast {other | significance ∣ other ∧ number ≤ other} (multiple * significance) ↔
      multiple = ⌈(number : ℚ) / significance⌉ := by
  have least : IsLeast {other | significance ∣ other ∧ number ≤ other} (⌈(number : ℚ) / significance⌉ * significance) := by
    refine ⟨⟨dvd_mul_left _ _, (le_multiple_iff positive).mpr le_rfl⟩, ?_⟩
    rintro _ ⟨⟨count, rfl⟩, reaches⟩
    rw [mul_comm significance] at reaches ⊢
    exact mul_le_mul_of_nonneg_right ((le_multiple_iff positive).mp reaches) (by omega)
  constructor
  · intro own
    exact mul_right_cancel₀ (by omega) (own.unique least)
  · rintro rfl
    exact least

theorem isZero_significance : (Number.integer significance).isZero = false := by
  have nonzero : significance ≠ 0 := by omega
  simp [Number.isZero, Number.zero, Number.eq, Number.compare?, nonzero]

theorem remainder_integers : remainder [.integer number, .integer significance] =
    .ok (.integer (number - ⌊(number : ℚ) / significance⌋ * significance)) := by
  have rest : Int.fmod number significance = number - number / significance * significance := by
    rw [Int.fmod_eq_emod_of_nonneg _ (by omega), Int.emod_def, mul_comm]
  rw [floor_quotient positive, ← rest]
  change (do
    if (Number.integer significance).isZero then throw Failure.zeroDivisor
    return Value.number (← (Number.integer number).mod (.integer significance))) = _
  rw [isZero_significance positive, Number.mod, if_neg (show ¬significance = 0 by omega)]
  rfl

end Multiples

/-! ## The calls -/

section Calls

variable (positive : 1 ≤ significance)

include positive

theorem roundMultiple_integers (whole : Number → Except Failure ℤ) :
    roundMultiple whole [.integer number, .integer significance] =
      (Number.integer number).div (.integer significance) >>= fun quotient => whole quotient.clean >>= fun multiple =>
        .ok (.integer (multiple * significance)) := by
  change (if (Number.integer significance).isZero then _ else _) = _
  rw [isZero_significance positive]
  rfl

theorem div_integers : (Number.integer number).div (.integer significance) =
    if (nearestInt number significance.natAbs).isInf then .error .outOfRange
    else .ok (.double (nearestInt number significance.natAbs)) := by
  rw [Number.div, if_neg (by omega), Int.sign_eq_one_of_pos (by omega), mul_one]
  simp only
  split
  · rfl
  split
  next none =>
    rw [none, decide_eq_false (by omega)]
    rfl
  · rfl

theorem roundMultiple_of_large (whole : Number → Except Failure ℤ)
    (large : (Double.bound : ℚ) ≤ number.natAbs / significance.natAbs) :
    roundMultiple whole [.integer number, .integer significance] = .error .outOfRange := by
  rw [roundMultiple_integers positive, div_integers positive,
    if_pos ((Double.isInf_nearestInt number (by omega)).mpr large)]
  rfl

theorem roundMultiple_of_small (round : Float → ℤ)
    (small : (number.natAbs : ℚ) / significance.natAbs < Double.bound) :
    roundMultiple (Number.toWhole round) [.integer number, .integer significance] =
      .ok (.integer (round (roundPlaces 10 (nearestInt number significance.natAbs)) * significance)) := by
  have divisor : 0 < significance.natAbs := by omega
  have finite : (nearestInt number significance.natAbs).isFinite = true :=
    Double.isFinite_withSign_nearest divisor small _
  obtain ⟨places, -⟩ := Double.exists_roundsAt finite 10
  have inside : ¬(nearestInt number significance.natAbs).isInf = true := by
    rw [Double.isInf_of_isFinite finite]
    exact Bool.false_ne_true
  rw [roundMultiple_integers positive, div_integers positive, if_neg inside]
  change Number.toWhole round (.double (roundPlaces 10 _)) >>= _ = _
  rw [Number.toWhole, Double.isNaN_of_isFinite places, Double.isInf_of_isFinite places]
  rfl

end Calls

/-! ## The quotient -/

def quotient (number significance : ℤ) : ℚ :=
  toRat (nearestInt number significance.natAbs)

section Quotient

variable (positive : 1 ≤ significance)

include positive

theorem quotient_natAbs : (number.natAbs : ℚ) / significance.natAbs = |(number : ℚ)| / significance := by
  rw [Nat.cast_natAbs, Nat.cast_natAbs, abs_of_nonneg (by omega : 0 ≤ significance), Int.cast_abs]

theorem cast_significance : (significance.natAbs : ℚ) = significance := by
  rw [Nat.cast_natAbs, abs_of_nonneg (by omega : 0 ≤ significance)]

variable (small : |(number : ℚ)| / significance < Double.bound)

include small

theorem isNearest_quotient : IsNearest (number / significance) (quotient number significance) := by
  rw [← quotient_natAbs positive] at small
  rw [← cast_significance positive]
  exact Double.isNearest_nearestInt (by omega) small

theorem exists_rounded_quotient : ∃ whole,
    RoundsAt (10 ^ 10) (quotient number significance) (toRat (roundPlaces 10 (nearestInt number significance.natAbs))) whole := by
  rw [← quotient_natAbs positive] at small
  exact (Double.exists_roundsAt (Double.isFinite_withSign_nearest (by omega) small _) 10).2

theorem floorTo_integers : floorTo [.integer number, .integer significance] =
    .ok (.integer (⌊quotient number significance + noise⌋ * significance)) := by
  obtain ⟨whole, rounds⟩ := exists_rounded_quotient positive small
  have same := rounds.floor_eq (by decide) (by decide)
  rw [noise, ← same, ← Double.floor_eq]
  exact roundMultiple_of_small positive Double.floor (by rwa [quotient_natAbs positive])

theorem ceilingTo_integers : ceilingTo [.integer number, .integer significance] =
    .ok (.integer (⌈quotient number significance - noise⌉ * significance)) := by
  obtain ⟨whole, rounds⟩ := exists_rounded_quotient positive small
  have same := rounds.ceil_eq (by decide) (by decide)
  rw [noise, ← same, ← Double.ceiling_eq]
  exact roundMultiple_of_small positive Double.ceiling (by rwa [quotient_natAbs positive])

end Quotient

/-! ## Numbers that are not too large -/

section Close

variable {nearby : ℚ} (positive : 1 ≤ significance)
  (close : |number| * (2 * 10 ^ 10) + significance * 2 ^ 53 < 2 ^ 54 * 10 ^ 10)

include positive close

theorem abs_floor_lt : |⌊(number : ℚ) / significance⌋| < 2 ^ 53 := by
  have few : |number| < 2 ^ 53 := by linarith
  obtain ⟨least, most⟩ := abs_lt.mp few
  have lower : ⌊(number : ℚ) / significance⌋ * significance ≤ number := (multiple_le_iff positive).mpr le_rfl
  have upper : number < (⌊(number : ℚ) / significance⌋ + 1) * significance := lt_next_multiple positive
  generalize ⌊(number : ℚ) / significance⌋ = whole at *
  rw [abs_lt]
  constructor
  · by_contra low
    nlinarith
  · by_contra high
    nlinarith

theorem error_add_noise_lt : |(number : ℚ)| / significance / 2 ^ 53 + noise < 1 / significance := by
  have scale : (1 : ℚ) ≤ significance := by exact_mod_cast positive
  have cast : |(number : ℚ)| * (2 * 10 ^ 10) + significance * 2 ^ 53 < 2 ^ 54 * 10 ^ 10 := by exact_mod_cast close
  rw [lt_div_iff₀ (by linarith), add_mul, div_right_comm, div_mul_cancel₀ _ (by linarith), noise]
  push_cast
  linarith

/-- The rounding error and half a unit of the last place do not reach the next integer, and an integer that is a
double is not passed. -/
theorem floor_of_close (near : IsNearest (number / significance) nearby)
    (error : |nearby - number / significance| ≤ |(number : ℚ)| / significance / 2 ^ 53) :
    ⌊nearby + noise⌋ = ⌊(number : ℚ) / significance⌋ := by
  have scale : (1 : ℚ) ≤ significance := by exact_mod_cast positive
  have below := Int.floor_le ((number : ℚ) / significance)
  rw [Int.floor_eq_iff]
  constructor
  · have closest := near.closest _ (Double.isDouble_of_small (abs_floor_lt positive close))
    rw [abs_sub_comm ((⌊(number : ℚ) / significance⌋ : ℤ) : ℚ), abs_of_nonneg (sub_nonneg.mpr below)] at closest
    linarith [(abs_le.mp closest).1, noise_pos]
  · -- Below the next multiple there is room for one unit of the number.
    have next : number + 1 ≤ (⌊(number : ℚ) / significance⌋ + 1) * significance := lt_next_multiple positive
    have far : (number : ℚ) / significance ≤ ⌊(number : ℚ) / significance⌋ + 1 - 1 / significance := by
      have cast : (number : ℚ) + 1 ≤ (⌊(number : ℚ) / significance⌋ + 1) * significance := by exact_mod_cast next
      rw [div_le_iff₀ (by linarith), sub_mul, one_div_mul_cancel (by linarith)]
      linarith
    linarith [(abs_le.mp error).2, error_add_noise_lt positive close]

theorem quotient_error (small : |(number : ℚ)| / significance < Double.bound) :
    |quotient number significance - number / significance| ≤ |(number : ℚ)| / significance / 2 ^ 53 := by
  rcases eq_or_ne number 0 with rfl | nonzero
  · have closest := (isNearest_quotient positive small).closest 0 ⟨0, 0, by decide, by decide, by decide, by simp⟩
    simpa using closest
  · have normal : (2 : ℚ) ^ (-1022 : ℤ) ≤ number.natAbs / significance.natAbs := by
      have few : significance ≤ 2 ^ 35 := by linarith [abs_nonneg number]
      have cast : (significance : ℚ) ≤ 2 ^ 35 := by exact_mod_cast few
      have scale : (1 : ℚ) ≤ significance := by exact_mod_cast positive
      have one : (1 : ℚ) ≤ |(number : ℚ)| := by exact_mod_cast Int.one_le_abs nonzero
      rw [quotient_natAbs positive]
      calc (2 : ℚ) ^ (-1022 : ℤ) ≤ 2 ^ (-35 : ℤ) := zpow_le_zpow_right₀ (by norm_num) (by decide)
        _ = 1 / 2 ^ 35 := by norm_num
        _ ≤ 1 / significance := one_div_le_one_div_of_le (by linarith) cast
        _ ≤ |(number : ℚ)| / significance := div_le_div_of_nonneg_right one (by linarith)
    rw [← quotient_natAbs positive] at small ⊢
    rw [← cast_significance positive]
    exact Double.nearestInt_error_le (by omega) small normal

end Close

/-! ## Multiples around a number -/

/-- The greatest multiple of the significance that is not above the number, which is the number less its remainder. -/
structure IsFloor (number significance multiple : ℤ) : Prop where
  greatest : IsGreatest {other | significance ∣ other ∧ other ≤ number} multiple
  remainder : remainder [.integer number, .integer significance] = .ok (.integer (number - multiple))

def IsCeiling (number significance multiple : ℤ) : Prop :=
  IsLeast {other | significance ∣ other ∧ number ≤ other} multiple

theorem isFloor_iff (positive : 1 ≤ significance) (multiple : ℤ) :
    IsFloor number significance (multiple * significance) ↔ multiple = ⌊(number : ℚ) / significance⌋ := by
  rw [← isGreatest_iff positive]
  refine ⟨IsFloor.greatest, fun greatest => ⟨greatest, ?_⟩⟩
  rw [remainder_integers positive, ← (isGreatest_iff positive _).mp greatest]

structure Brackets (number significance : ℤ) (nearby : ℚ) : Prop where
  near : IsNearest (number / significance) nearby
  floor : floorTo [.integer number, .integer significance] = .ok (.integer (⌊nearby + noise⌋ * significance))
  ceiling : ceilingTo [.integer number, .integer significance] = .ok (.integer (⌈nearby - noise⌉ * significance))
  isFloor : IsFloor number significance (⌊nearby + noise⌋ * significance) ↔
    ⌊nearby + noise⌋ = ⌊(number : ℚ) / significance⌋
  isCeiling : IsCeiling number significance (⌈nearby - noise⌉ * significance) ↔
    ⌈nearby - noise⌉ = ⌈(number : ℚ) / significance⌉

theorem brackets (positive : 1 ≤ significance) (small : |(number : ℚ)| / significance < Double.bound) :
    Brackets number significance (quotient number significance) where
  near := isNearest_quotient positive small
  floor := floorTo_integers positive small
  ceiling := ceilingTo_integers positive small
  isFloor := isFloor_iff positive _
  isCeiling := isLeast_iff positive _

theorem ceil_of_close {nearby : ℚ} (positive : 1 ≤ significance)
    (close : |number| * (2 * 10 ^ 10) + significance * 2 ^ 53 < 2 ^ 54 * 10 ^ 10)
    (near : IsNearest (number / significance) nearby)
    (error : |nearby - number / significance| ≤ |(number : ℚ)| / significance / 2 ^ 53) :
    ⌈nearby - noise⌉ = ⌈(number : ℚ) / significance⌉ := by
  have opposite : (((-number : ℤ) : ℚ) / significance) = -(number / significance) := by
    rw [Int.cast_neg, neg_div]
  have mirrored : IsNearest (((-number : ℤ) : ℚ) / significance) (-nearby) := by
    rw [opposite]
    exact near.neg
  have floor := floor_of_close positive (by rwa [abs_neg]) mirrored
    (by rwa [opposite, ← neg_sub', abs_neg, Int.cast_neg, abs_neg])
  rw [opposite, show -nearby + noise = -(nearby - noise) by ring, Int.floor_neg, Int.floor_neg, neg_inj] at floor
  exact floor

/-- The functions succeed as long as the quotient is within the doubles. They give the multiples around the number
exactly if the double nearest to the quotient, moved by half a unit of the tenth decimal place, does not come to
another integer, and so they do for all numbers and significances that are not too large. -/
theorem multiples_of_integers (positive : 1 ≤ significance) :
    ((∃ result, floorTo [.integer number, .integer significance] = .ok result) ↔
      |(number : ℚ)| / significance < Double.bound) ∧
    ((∃ result, ceilingTo [.integer number, .integer significance] = .ok result) ↔
      |(number : ℚ)| / significance < Double.bound) ∧
    (|(number : ℚ)| / significance < Double.bound →
      ∃ nearby, Brackets number significance nearby ∧
        (|number| * (2 * 10 ^ 10) + significance * 2 ^ 53 < 2 ^ 54 * 10 ^ 10 →
          IsFloor number significance (⌊nearby + noise⌋ * significance) ∧
            IsCeiling number significance (⌈nearby - noise⌉ * significance))) := by
  have refused (whole : Number → Except Failure ℤ) (large : ¬|(number : ℚ)| / significance < Double.bound) :
      roundMultiple whole [.integer number, .integer significance] = .error .outOfRange := by
    rw [not_lt, ← quotient_natAbs positive] at large
    exact roundMultiple_of_large positive whole large
  refine ⟨⟨?_, fun small => ⟨_, floorTo_integers positive small⟩⟩, ⟨?_, fun small => ⟨_, ceilingTo_integers positive small⟩⟩,
    fun small => ⟨_, brackets positive small, fun close => ?_⟩⟩
  · rintro ⟨result, found⟩
    by_contra large
    exact nomatch found.symm.trans (refused Number.floor large)
  · rintro ⟨result, found⟩
    by_contra large
    exact nomatch found.symm.trans (refused Number.ceiling large)
  · have near := isNearest_quotient positive small
    have error := quotient_error positive close small
    exact ⟨(brackets positive small).isFloor.mpr (floor_of_close positive close near error),
      (brackets positive small).isCeiling.mpr (ceil_of_close positive close near error)⟩

theorem multiples_around_minus_seven :
    (1 : ℤ) ≤ 3 ∧ ∃ below above, floorTo [.integer (-7), .integer 3] = .ok (.integer below) ∧
      ceilingTo [.integer (-7), .integer 3] = .ok (.integer above) ∧ IsFloor (-7) 3 below ∧ IsCeiling (-7) 3 above := by
  have small : |((-7 : ℤ) : ℚ)| / ((3 : ℤ) : ℚ) < Double.bound := by
    have three : (3 : ℚ) ≤ Double.bound := by exact_mod_cast (show 3 ≤ Double.bound by decide +kernel)
    exact lt_of_lt_of_le (by norm_num) three
  have positive : (1 : ℤ) ≤ 3 := by decide
  obtain ⟨_, _, bracketed⟩ := multiples_of_integers positive
  obtain ⟨nearby, brackets, exact⟩ := bracketed small
  exact ⟨positive, _, _, brackets.floor, brackets.ceiling, exact (by decide)⟩

theorem multiples_passed :
    floorTo [.integer 99999999999, .integer 100000000000] = .ok (.integer 100000000000) ∧
      ¬IsFloor 99999999999 100000000000 100000000000 ∧
      ceilingTo [.integer 9007199254740993, .integer 1] = .ok (.integer 9007199254740992) ∧
      ¬IsCeiling 9007199254740993 1 9007199254740992 := by
  refine ⟨?_, fun floor => absurd floor.greatest.1.2 (by decide), ?_, fun ceiling => absurd ceiling.1.2 (by decide)⟩
  · rfl
  · rfl

end Builtin

end Worksheet
