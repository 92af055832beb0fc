import Worksheet.Proofs.Number.Nearest

/-! Doubles rounded to decimal places. The rounding goes to the nearest decimal and from there to the nearest double
again; the integers below and above the result are those of the double moved by half a unit of the last place. -/

namespace Worksheet.Double

/-- The number is no more than one half away, and less from an odd integer. -/
def HalfEven (x : ℚ) (whole : ℤ) : Prop :=
  |whole - x| < 1 / 2 ∨ (whole % 2 = 0 ∧ |whole - x| = 1 / 2)

theorem HalfEven.le {x : ℚ} {whole : ℤ} (near : HalfEven x whole) : |whole - x| ≤ 1 / 2 := by
  rcases near with inside | ⟨-, border⟩
  · exact inside.le
  · exact border.le

theorem HalfEven.neg {x : ℚ} {whole : ℤ} (near : HalfEven x whole) : HalfEven (-x) (-whole) := by
  have same : |((-whole : ℤ) : ℚ) - -x| = |whole - x| := by
    rw [← abs_neg]
    congr 1
    push_cast
    ring
  rw [HalfEven, same]
  exact near.imp_right fun border => ⟨by omega, border.2⟩

theorem RoundsTo.halfEven {x : ℚ} {whole : ℕ} (near : RoundsTo x whole) : HalfEven x whole := by
  rw [HalfEven, Int.cast_natCast]
  rcases near with ⟨low, high⟩ | ⟨even, low | high⟩
  · exact Or.inl (abs_lt.mpr ⟨by linarith, by linarith⟩)
  · refine Or.inr ⟨by omega, ?_⟩
    rw [low, sub_sub_cancel, abs_of_pos (by norm_num)]
  · refine Or.inr ⟨by omega, ?_⟩
    rw [high, sub_add_cancel_left, abs_neg, abs_of_pos (by norm_num)]

/-- A double and what it is rounded to at a number of units to one: first to a whole number of these units, then to a
double. -/
structure RoundsAt (scale : ℕ) (value rounded : ℚ) (whole : ℤ) : Prop where
  isDouble : IsDouble value
  halfEven : HalfEven (value * scale) whole
  near : IsNearest (whole / scale) rounded

/-! ## The integers around the result -/

namespace RoundsAt

variable {scale : ℕ} {value rounded : ℚ} {whole : ℤ} (rounds : RoundsAt scale value rounded whole) (positive : 0 < scale)

include rounds

theorem neg : RoundsAt scale (-value) (-rounded) (-whole) := by
  refine ⟨rounds.isDouble.neg, ?_, ?_⟩
  · rw [neg_mul]
    exact rounds.halfEven.neg
  · have near := rounds.near.neg
    rwa [← neg_div, ← Int.cast_neg] at near

include positive

theorem decimal_close : |whole / scale - value| ≤ 1 / (2 * scale) := by
  have cast : (0 : ℚ) < scale := by exact_mod_cast positive
  have half := rounds.halfEven.le
  have shifted : (whole : ℚ) / scale - value = (whole - value * scale) / scale := by
    field_simp
  rw [shifted, abs_div, abs_of_pos cast, div_le_iff₀ cast]
  calc |whole - value * scale| ≤ 1 / 2 := half
    _ = 1 / (2 * scale) * scale := by field_simp

theorem close : |rounded - whole / scale| ≤ 1 / (2 * scale) := by
  have own := rounds.near.closest value rounds.isDouble
  rw [abs_sub_comm value] at own
  exact own.trans (rounds.decimal_close positive)

theorem eq_of_integer {own : ℤ} (integer : value = own) : rounded = value := by
  have cast : (0 : ℚ) < scale := by exact_mod_cast positive
  have exact : whole = own * scale := by
    have half := rounds.halfEven.le
    rw [integer] at half
    have below : |whole - own * scale| < 1 := by
      have less : |((whole - own * scale : ℤ) : ℚ)| < 1 := by
        push_cast
        exact lt_of_le_of_lt half (by norm_num)
      exact_mod_cast less
    exact sub_eq_zero.mp (Int.abs_lt_one_iff.mp below)
  have decimal : (whole : ℚ) / scale = value := by
    rw [exact, integer]
    push_cast
    field_simp
  have none := rounds.near.closest value rounds.isDouble
  rw [decimal, sub_self, abs_zero] at none
  exact sub_eq_zero.mp (abs_nonpos_iff.mp none)

theorem lt_of_lt {limit : ℤ} (below : value < limit - 1 / (2 * scale)) : rounded < limit := by
  have cast : (0 : ℚ) < scale := by exact_mod_cast positive
  have units : value * scale < limit * scale - 1 / 2 := by
    have scaled := mul_lt_mul_of_pos_right below cast
    have half : (limit - 1 / (2 * scale : ℚ)) * scale = limit * scale - 1 / 2 := by field_simp
    rwa [half] at scaled
  have less : whole < limit * scale := by
    have half := (abs_le.mp rounds.halfEven.le).2
    have cast : (whole : ℚ) < limit * scale := by linarith
    exact_mod_cast cast
  have decimal : (whole : ℚ) / scale ≤ limit - 1 / scale := by
    have whole : (whole : ℚ) ≤ limit * scale - 1 := by exact_mod_cast Int.le_sub_one_of_lt less
    rw [div_le_iff₀ cast]
    calc (_ : ℚ) ≤ limit * scale - 1 := whole
      _ = (limit - 1 / scale) * scale := by field_simp
  have near := (abs_le.mp (rounds.close positive)).2
  have half : (1 : ℚ) / scale = 1 / (2 * scale) + 1 / (2 * scale) := by field_simp; norm_num
  have unit : (0 : ℚ) < 1 / (2 * scale) := by positivity
  linarith

theorem whole_ge (even : scale % 2 = 0) {limit : ℤ} (reached : limit - 1 / (2 * scale) ≤ value) : limit * scale ≤ whole := by
  have cast : (0 : ℚ) < scale := by exact_mod_cast positive
  have units : limit * scale - 1 / 2 ≤ value * scale := by
    have scaled := mul_le_mul_of_nonneg_right reached cast.le
    have half : (limit - 1 / (2 * scale : ℚ)) * scale = limit * scale - 1 / 2 := by field_simp
    rwa [half] at scaled
  by_contra short
  have less : (whole : ℚ) ≤ limit * scale - 1 := by exact_mod_cast Int.le_sub_one_of_lt (not_le.mp short)
  have half := (abs_le.mp rounds.halfEven.le).1
  rcases rounds.halfEven with inside | ⟨evenWhole, -⟩
  · linarith [(abs_lt.mp inside).1]
  · have border : (whole : ℚ) = limit * scale - 1 := by linarith
    have odd : whole = limit * scale - 1 := by exact_mod_cast border
    have evenScale : (limit * scale) % 2 = 0 := by
      rw [Int.mul_emod, show (scale : ℤ) % 2 = 0 by exact_mod_cast even, Int.mul_zero, Int.zero_emod]
    omega

/-- What comes near an integer from below reaches it: doubles beyond `2 ^ 52` are not rounded at all, and an integer
within that range is a double itself. -/
theorem le_of_le (even : scale % 2 = 0) {limit : ℤ} (reached : limit - 1 / (2 * scale) ≤ value) : limit ≤ rounded := by
  have cast : (0 : ℚ) < scale := by exact_mod_cast positive
  have unit : (1 : ℚ) / (2 * scale) ≤ 1 / 2 := by
    have one : (1 : ℚ) ≤ scale := by exact_mod_cast positive
    rw [div_le_div_iff₀ (by positivity) (by norm_num)]
    linarith
  rcases rounds.isDouble.integer_or_small with ⟨own, integer⟩ | small
  · rw [rounds.eq_of_integer positive integer, integer]
    rw [integer] at reached
    have below : (limit : ℚ) < own + 1 := by linarith
    exact_mod_cast Int.le_of_lt_add_one (by exact_mod_cast below)
  have decimal : (limit : ℚ) ≤ whole / scale := by
    rw [le_div_iff₀ cast]
    exact_mod_cast rounds.whole_ge positive even reached
  obtain ⟨low, high⟩ := abs_lt.mp small
  have top : limit ≤ 2 ^ 52 := by
    have above : (limit : ℚ) < 2 ^ 52 + 1 := by linarith
    exact Int.lt_add_one_iff.mp (by exact_mod_cast above)
  rcases le_or_gt (-2 ^ 52) limit with bottom | far
  · have double : IsDouble limit := isDouble_of_small (abs_lt.mpr ⟨by omega, by omega⟩)
    have near := rounds.near.closest limit double
    rw [abs_sub_comm (limit : ℚ), abs_of_nonneg (sub_nonneg.mpr decimal)] at near
    linarith [(abs_le.mp near).1]
  · have beyond : (limit : ℚ) ≤ -2 ^ 52 - 1 := by exact_mod_cast Int.le_sub_one_of_lt far
    linarith [(abs_le.mp (rounds.close positive)).1, (abs_le.mp (rounds.decimal_close positive)).1]

theorem floor_eq (even : scale % 2 = 0) : ⌊rounded⌋ = ⌊value + 1 / (2 * scale)⌋ := by
  refine eq_of_forall_le_iff fun limit => ?_
  rw [Int.le_floor, Int.le_floor, ← sub_le_iff_le_add]
  refine ⟨fun reached => ?_, rounds.le_of_le positive even⟩
  by_contra below
  exact absurd (rounds.lt_of_lt positive (not_le.mp below)) reached.not_gt

theorem ceil_eq (even : scale % 2 = 0) : ⌈rounded⌉ = ⌈value - 1 / (2 * scale)⌉ := by
  have opposite := rounds.neg.floor_eq positive even
  rw [Int.floor_neg] at opposite
  rw [← neg_inj, opposite, ← Int.floor_neg]
  congr 1
  ring

end RoundsAt

/-! ## Rounding to places -/

theorem isNearest_self {value : ℚ} (isDouble : IsDouble value) : IsNearest value value := by
  refine ⟨isDouble, fun other _ => ?_⟩
  rw [sub_self, abs_zero]
  exact abs_nonneg _

theorem roundsAt_of_integer {value : ℚ} (isDouble : IsDouble value) {own : ℤ} (integer : value = own) {scale : ℕ}
    (positive : 0 < scale) : RoundsAt scale value value (own * scale) := by
  have cast : (scale : ℚ) ≠ 0 := by exact_mod_cast positive.ne'
  refine ⟨isDouble, Or.inl ?_, ?_⟩
  · rw [integer]
    push_cast
    rw [sub_self, abs_zero]
    norm_num
  · have exact : ((own * scale : ℤ) : ℚ) / scale = value := by
      rw [integer]
      push_cast
      field_simp
    rw [exact]
    exact isNearest_self isDouble

theorem roundsAt_of_nearest {x : Float} (finite : x.isFinite = true) {scale scaled : ℕ} (positive : 0 < scale)
    (near : RoundsTo ((parts x).mantissa * 2 ^ (parts x).exponent * scale) scaled)
    (fraction : (parts x).exponent < 0) :
    (withSign (parts x).negative (nearest scaled scale)).isFinite = true ∧
      ∃ whole, RoundsAt scale (toRat x) (toRat (withSign (parts x).negative (nearest scaled scale))) whole := by
  have within : (scaled : ℚ) / scale < bound := by
    have one : (1 : ℚ) ≤ scale := by exact_mod_cast positive
    have mantissa : ((parts x).mantissa : ℚ) ≤ 2 ^ 53 := by exact_mod_cast (parts_bounds finite).1.le
    have power : (2 : ℚ) ^ (parts x).exponent ≤ 1 := zpow_le_one_of_nonpos₀ (by norm_num) fraction.le
    have small : ((parts x).mantissa : ℚ) * 2 ^ (parts x).exponent ≤ 2 ^ 53 * 1 :=
      mul_le_mul mantissa power (by positivity) (by norm_num)
    have rounded := near.bounds.1
    have most : (scaled : ℚ) ≤ (2 ^ 53 + 1) * scale := by nlinarith
    calc (scaled : ℚ) / scale ≤ 2 ^ 53 + 1 := (div_le_iff₀ (by positivity)).mpr most
      _ < 2 ^ (54 : ℤ) := by norm_num
      _ ≤ 2 ^ (1023 : ℤ) := zpow_le_zpow_right₀ (by norm_num) (by decide)
      _ ≤ bound := bound_between.1
  refine ⟨isFinite_withSign_nearest positive within _, (if (parts x).negative then -1 else 1) * scaled,
    isDouble_toRat finite, ?_, ?_⟩
  · rw [toRat_eq]
    split
    · simpa using near.halfEven.neg
    · simpa using near.halfEven
  · have double := isNearest_withSign positive within (parts x).negative
    push_cast
    rwa [mul_div_assoc]

theorem exists_roundsAt {x : Float} (finite : x.isFinite = true) (places : ℕ) :
    (roundPlaces places x).isFinite = true ∧
      ∃ whole, RoundsAt (10 ^ places) (toRat x) (toRat (roundPlaces places x)) whole := by
  have positive : 0 < 10 ^ places := Nat.pow_pos (by decide)
  unfold roundPlaces
  simp only [finite, Bool.not_true, Bool.false_eq_true, if_false, Nat.pow_eq]
  split
  next whole =>
    have exponent : (-(parts x).exponent).toNat = 0 := by omega
    have integer : toRat x = numerator x := by
      rw [toRat, denominator, exponent]
      simp
    exact ⟨finite, _, roundsAt_of_integer (isDouble_toRat finite) integer positive⟩
  next fraction =>
    have near := roundsTo_roundDiv ((parts x).mantissa * 10 ^ places) (Nat.two_pow_pos (-(parts x).exponent).toNat)
    refine roundsAt_of_nearest finite positive ?_ (not_le.mp fraction)
    have scale := two_pow_toNat (parts x).exponent
    rw [show (parts x).exponent.toNat = 0 by omega, pow_zero] at scale
    convert near using 1
    rw [eq_div_iff (by positivity)]
    push_cast
    linear_combination (-((parts x).mantissa * 10 ^ places : ℚ)) * scale

end Worksheet.Double
