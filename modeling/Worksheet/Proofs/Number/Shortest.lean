import Mathlib
import Worksheet.Number.Literal
import Worksheet.Number.Shortest
import Worksheet.Proofs.Number.Parts
import Worksheet.Proofs.Text.Digits

/-! The shortest decimal of a double lies in the interval of the double, so that the double is the one nearest to it.
-/

namespace Worksheet.Double

/-! ## Decimals -/

def Decimal.toRat (decimal : Decimal) : ℚ :=
  decimal.digits * 10 ^ decimal.exponent

theorem ten_pow_toNat (exponent : ℤ) :
    (10 : ℚ) ^ exponent.toNat = 10 ^ exponent * 10 ^ (-exponent).toNat := by
  rw [← zpow_natCast, ← zpow_natCast, ← zpow_add₀ (by norm_num)]
  congr 1
  omega

theorem toRat_normalize (fuel : ℕ) (decimal : Decimal) : (decimal.normalize fuel).toRat = decimal.toRat := by
  induction fuel generalizing decimal with
  | zero => rfl
  | succ fuel ih =>
    rw [Decimal.normalize]
    split
    next ends =>
      have whole : decimal.digits = 10 * (decimal.digits / 10) := by omega
      have cast : (decimal.digits : ℚ) = 10 * (decimal.digits / 10 : ℕ) := by exact_mod_cast whole
      rw [ih]
      simp only [Decimal.toRat]
      rw [cast, zpow_add_one₀ (by norm_num)]
      ring
    next => rfl

theorem toRat_exactDecimal (exact : Parts) : (exactDecimal exact).toRat = exact.mantissa * 2 ^ exact.exponent := by
  unfold exactDecimal
  split
  next whole =>
    have power : (2 : ℚ) ^ exact.exponent.toNat = 2 ^ exact.exponent := by
      rw [← zpow_natCast, Int.toNat_of_nonneg whole]
    simp [Decimal.toRat, power]
  next fraction =>
    have power : (5 : ℚ) ^ (-exact.exponent).toNat * 10 ^ exact.exponent = 2 ^ exact.exponent := by
      have opposite : ((-exact.exponent).toNat : ℤ) = -exact.exponent := by omega
      rw [← zpow_natCast, opposite, show (10 : ℚ) = 5 * 2 by norm_num, mul_zpow, ← mul_assoc, ← zpow_add₀ (by norm_num),
        neg_add_cancel, zpow_zero, one_mul]
    simp [Decimal.toRat, mul_assoc, power]

/-! ## The interval in integers -/

theorem holds_iff {span : Interval} {point : ℕ} :
    span.holds point = true ↔ ((span.low : ℚ) < point ∧ (point : ℚ) < span.high) ∨
      (span.closed = true ∧ ((span.low : ℚ) = point ∨ (span.high : ℚ) = point)) := by
  simp [Interval.holds]

theorem quarters_low {exact : Parts} (positive : 0 < exact.mantissa) :
    ((4 * exact.mantissa - (if exact.mantissa == Nat.pow 2 52 && exact.exponent > -1074 then 1 else 2) : ℕ) : ℚ)
      = 4 * (exact.mantissa - exact.lower) := by
  have narrow : (exact.mantissa == Nat.pow 2 52 && decide (exact.exponent > -1074)) = true ↔
      exact.mantissa = 2 ^ 52 ∧ -1074 < exact.exponent := by
    simp
  unfold Parts.lower
  simp only [narrow]
  split
  · rw [Nat.cast_sub (by omega)]
    push_cast
    ring
  · rw [Nat.cast_sub (by omega)]
    push_cast
    ring

theorem scaled_interval {exact : Parts} (positive : 0 < exact.mantissa) (place : ℤ) :
    ∃ factor : ℚ, 0 < factor ∧
      (((interval exact).scaled (-place).toNat).low : ℚ) = factor * (exact.mantissa - exact.lower) ∧
      (((interval exact).scaled (-place).toNat).high : ℚ) = factor * (exact.mantissa + 1 / 2) ∧
      ∀ digits : ℕ, ((digits * ((interval exact).denominator * Nat.pow 10 place.toNat) : ℕ) : ℚ)
        = factor * (digits * 10 ^ place / 2 ^ exact.exponent) := by
  refine ⟨4 * 2 ^ (exact.exponent - 2).toNat * 10 ^ (-place).toNat, by positivity, ?_, ?_, fun digits => ?_⟩
  · simp only [Interval.scaled, interval]
    rw [Nat.cast_mul, Nat.cast_mul, quarters_low positive]
    push_cast [Nat.pow_eq]
    ring
  · simp only [Interval.scaled, interval]
    push_cast [Nat.pow_eq]
    ring
  · have power : (2 : ℚ) ^ exact.exponent = 4 * 2 ^ (exact.exponent - 2) := by
      rw [zpow_sub₀ (by norm_num)]
      norm_num
      ring
    have nonzero : (2 : ℚ) ^ (exact.exponent - 2) ≠ 0 := by positivity
    simp only [interval]
    push_cast [Nat.pow_eq]
    rw [ten_pow_toNat place, two_pow_toNat (exact.exponent - 2), power]
    field_simp

theorem near_of_holds {exact : Parts} (positive : 0 < exact.mantissa) {place : ℤ} {digits : ℕ}
    (holds : ((interval exact).scaled (-place).toNat).holds
      (digits * ((interval exact).denominator * Nat.pow 10 place.toNat)) = true) :
    exact.Near (Decimal.mk digits place).toRat := by
  obtain ⟨factor, factorPositive, low, high, decimal⟩ := scaled_interval positive place
  have closed : ((interval exact).scaled (-place).toNat).closed = true ↔ exact.mantissa % 2 = 0 := beq_iff_eq
  rw [holds_iff, low, high, decimal, closed] at holds
  simp only [mul_lt_mul_iff_right₀ factorPositive, mul_right_inj' factorPositive.ne'] at holds
  simpa only [Parts.Near, Decimal.toRat, eq_comm] using holds

theorem holds_of_neighbour {span : Interval} {unit digits : ℕ} (found : span.neighbour? unit = some digits) :
    span.holds (digits * unit) = true := by
  unfold Interval.neighbour? at found
  simp only [Bool.and_eq_true] at found
  split at found
  next both =>
    obtain ⟨low, high⟩ := both
    split at found
    · cases found
      exact low
    · split at found
      · cases found
        exact high
      · cases found
        rcases Nat.mod_two_eq_zero_or_one (span.value / unit) with even | odd
        · rwa [even, Nat.add_zero]
        · rwa [odd]
  next =>
    split at found
    next low =>
      cases found
      exact low
    next =>
      split at found
      next high =>
        cases found
        exact high
      next => cases found

/-! ## The shortest decimal -/

theorem near_exactDecimal (exact : Parts) : exact.Near (exactDecimal exact).toRat := by
  rw [toRat_exactDecimal]
  exact exact.near_self

theorem near_shortest {exact : Parts} (positive : 0 < exact.mantissa) : exact.Near (shortest exact).toRat := by
  unfold shortest
  simp only [toRat_normalize]
  cases found : (List.range 17).findSome? fun index =>
      atLength (interval exact) (decimalExponent (interval exact) exact) (index + 1) with
  | none => exact near_exactDecimal exact
  | some decimal =>
    obtain ⟨index, _, hit⟩ := List.exists_of_findSome?_eq_some found
    obtain ⟨digits, neighbour, rfl⟩ := Option.map_eq_some_iff.mp hit
    exact near_of_holds positive (holds_of_neighbour neighbour)

/-! ## Reading a decimal -/

theorem two_pow_le_ten_pow (blocks : ℕ) {rest places : ℕ} (small : (2 : ℚ) ^ rest ≤ 10 ^ places) :
    (2 : ℚ) ^ (93 * blocks + rest) ≤ 10 ^ (28 * blocks + places) := by
  have block : (2 : ℚ) ^ 93 ≤ 10 ^ 28 := by norm_num
  rw [pow_add, pow_add, pow_mul, pow_mul]
  gcongr

theorem magnitude_bounds : (2 : ℚ) ^ (1024 : ℤ) ≤ 10 ^ (309 : ℤ) ∧ (10 : ℚ) ^ (-400 : ℤ) ≤ 2 ^ (-1075 : ℤ) := by
  have large := two_pow_le_ten_pow 11 (show (2 : ℚ) ^ 1 ≤ 10 ^ 1 by norm_num)
  have small := two_pow_le_ten_pow 11 (show (2 : ℚ) ^ 52 ≤ 10 ^ 92 by norm_num)
  rw [← zpow_natCast, ← zpow_natCast] at large small
  refine ⟨large, ?_⟩
  rw [zpow_neg, zpow_neg]
  exact inv_anti₀ (by positivity) small

theorem Parts.Near.range {exact : Parts} (proper : exact.Proper) {x : ℚ} (near : exact.Near x) :
    (2 : ℚ) ^ (-1075 : ℤ) ≤ x ∧ x < 2 ^ (1024 : ℤ) := by
  obtain ⟨low, high⟩ := near.bounds
  have power : (0 : ℚ) < 2 ^ exact.exponent := by positivity
  have lowerLe : exact.lower ≤ 1 / 2 := by
    unfold Parts.lower
    split <;> norm_num
  have mantissaGe : (1 : ℚ) ≤ exact.mantissa := by exact_mod_cast proper.positive
  have mantissaLe : (exact.mantissa : ℚ) + 1 ≤ 2 ^ 53 := by exact_mod_cast proper.bounded
  constructor
  · calc (2 : ℚ) ^ (-1075 : ℤ) = 1 / 2 * 2 ^ (-1074 : ℤ) := by
          rw [show (-1075 : ℤ) = -1074 - 1 by norm_num, zpow_sub_one₀ (by norm_num)]
          ring
      _ ≤ 1 / 2 * 2 ^ exact.exponent := by
        gcongr
        · norm_num
        · exact proper.least
      _ ≤ x := (le_div_iff₀ power).mp (by linarith)
  · calc x < 2 ^ 53 * 2 ^ exact.exponent := (div_lt_iff₀ power).mp (by linarith)
      _ ≤ 2 ^ 53 * 2 ^ (971 : ℤ) := by
        gcongr
        · norm_num
        · exact proper.greatest
      _ = 2 ^ (1024 : ℤ) := by
        rw [← zpow_natCast, ← zpow_add₀ (by norm_num)]
        norm_num

theorem Parts.Near.digits_pos {exact : Parts} {digits : ℕ} {exponent : ℤ} (near : exact.Near (digits * 10 ^ exponent))
    (proper : exact.Proper) : 0 < digits := by
  rcases Nat.eq_zero_or_pos digits with zero | some
  · have low := (near.range proper).1
    rw [zero, Nat.cast_zero, zero_mul] at low
    exact absurd low (not_le.mpr (by positivity))
  · exact some

theorem nearestDecimal_of_near {exact : Parts} (proper : exact.Proper) {digits : ℕ} {exponent : ℤ}
    (near : exact.Near (digits * 10 ^ exponent)) :
    Literal.nearestDecimal digits exponent = assemble exact.mantissa exact.exponent := by
  obtain ⟨low, high⟩ := near.range proper
  have power : (0 : ℚ) < 10 ^ exponent := by positivity
  have some := near.digits_pos proper
  obtain ⟨least, greatest⟩ := Text.pow_length_ofNat some
  have nonempty := List.length_pos_iff.mpr (Text.ofNat_ne_nil digits)
  unfold Literal.nearestDecimal
  simp only
  generalize (Text.ofNat digits).length = length at least greatest nonempty
  have top : (length : ℤ) + exponent ≤ 310 := by
    have below : (10 : ℚ) ^ ((length : ℤ) - 1 + exponent) < 10 ^ (309 : ℤ) := by
      calc (10 : ℚ) ^ ((length : ℤ) - 1 + exponent) = (10 ^ (length - 1) : ℕ) * 10 ^ exponent := by
            rw [zpow_add₀ (by norm_num), ← Int.natCast_pred_of_pos nonempty, zpow_natCast]
            norm_num
        _ ≤ digits * 10 ^ exponent := by gcongr
        _ < 2 ^ (1024 : ℤ) := high
        _ ≤ 10 ^ (309 : ℤ) := magnitude_bounds.1
    have := (zpow_lt_zpow_iff_right₀ (by norm_num : (1 : ℚ) < 10)).mp below
    omega
  have bottom : -400 ≤ (length : ℤ) + exponent := by
    have above : (10 : ℚ) ^ (-400 : ℤ) < 10 ^ ((length : ℤ) + exponent) := by
      calc (10 : ℚ) ^ (-400 : ℤ) ≤ 2 ^ (-1075 : ℤ) := magnitude_bounds.2
        _ ≤ digits * 10 ^ exponent := low
        _ < (10 ^ length : ℕ) * 10 ^ exponent := by gcongr
        _ = 10 ^ ((length : ℤ) + exponent) := by
            rw [zpow_add₀ (by norm_num), zpow_natCast]
            norm_num
    have := (zpow_lt_zpow_iff_right₀ (by norm_num : (1 : ℚ) < 10)).mp above
    omega
  have quotient : ((digits * Nat.pow 10 exponent.toNat : ℕ) : ℚ) / (Nat.pow 10 (-exponent).toNat : ℕ)
      = digits * 10 ^ exponent := by
    have nonzero : (10 : ℚ) ^ (-exponent).toNat ≠ 0 := by positivity
    push_cast [Nat.pow_eq]
    rw [ten_pow_toNat exponent]
    field_simp
  rw [if_neg some.ne', if_neg (by omega), if_neg (by omega)]
  exact nearest_of_near proper (Nat.pow_pos (by decide)) (by rwa [quotient])

end Worksheet.Double
