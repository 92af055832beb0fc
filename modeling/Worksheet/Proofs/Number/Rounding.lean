import Mathlib
import Worksheet.Proofs.Number.Zero

/-! Rounding to doubles. A finite double that is not zero is the double nearest to every number of an interval around
it, which is closed if the mantissa is even. Below the least mantissa of 53 bits the interval has half the width,
since the doubles there are twice as dense. -/

namespace Worksheet.Double

/-! ## Rounding to a natural number -/

/-- The number is no more than one half away, and less from an odd one. -/
def RoundsTo (x : ℚ) (whole : ℕ) : Prop :=
  (whole - 1 / 2 < x ∧ x < whole + 1 / 2) ∨ (whole % 2 = 0 ∧ (x = whole - 1 / 2 ∨ x = whole + 1 / 2))

theorem RoundsTo.bounds {x : ℚ} {whole : ℕ} (near : RoundsTo x whole) :
    whole - 1 / 2 ≤ x ∧ x ≤ whole + 1 / 2 := by
  rcases near with ⟨low, high⟩ | ⟨-, equal | equal⟩
  · exact ⟨low.le, high.le⟩
  · constructor <;> linarith
  · constructor <;> linarith

section Rest

variable {denominator : ℕ} (positive : 0 < denominator)

include positive

theorem quotient_add_rest (numerator : ℕ) :
    (numerator : ℚ) / denominator
      = (numerator / denominator : ℕ) + (numerator % denominator : ℕ) / denominator := by
  have scale : (0 : ℚ) < denominator := by exact_mod_cast positive
  have parts : (denominator : ℚ) * (numerator / denominator : ℕ) + (numerator % denominator : ℕ) = numerator := by
    exact_mod_cast Nat.div_add_mod numerator denominator
  field_simp
  linarith

theorem two_mul_lt_iff (rest : ℕ) : 2 * rest < denominator ↔ (rest : ℚ) / denominator < 1 / 2 := by
  rw [div_lt_iff₀ (by exact_mod_cast positive), ← Nat.cast_lt (α := ℚ)]
  push_cast
  constructor <;> intro <;> linarith

theorem lt_two_mul_iff (rest : ℕ) : denominator < 2 * rest ↔ 1 / 2 < (rest : ℚ) / denominator := by
  rw [lt_div_iff₀ (by exact_mod_cast positive), ← Nat.cast_lt (α := ℚ)]
  push_cast
  constructor <;> intro <;> linarith

end Rest

theorem roundDiv_of_roundsTo {numerator denominator whole : ℕ} (positive : 0 < denominator)
    (near : RoundsTo (numerator / denominator) whole) : roundDiv numerator denominator = whole := by
  have less := Nat.mod_lt numerator positive
  rw [quotient_add_rest positive] at near
  unfold roundDiv
  simp only
  generalize numerator / denominator = quotient at near
  generalize numerator % denominator = rest at near less
  simp only [two_mul_lt_iff positive, lt_two_mul_iff positive]
  -- the part behind the point is compared with one half
  obtain ⟨nonneg, below⟩ : (0 : ℚ) ≤ rest / denominator ∧ (rest : ℚ) / denominator < 1 := by
    refine ⟨by positivity, ?_⟩
    rw [div_lt_one (by exact_mod_cast positive)]
    exact_mod_cast less
  generalize (rest : ℚ) / denominator = part at near nonneg below
  have least : quotient ≤ whole := by
    have bound : (quotient : ℚ) < (whole + 1 : ℕ) := by push_cast; linarith [near.bounds.2]
    exact Nat.lt_succ_iff.mp (by exact_mod_cast bound)
  have greatest : whole ≤ quotient + 1 := by
    have bound : (whole : ℚ) < (quotient + 2 : ℕ) := by push_cast; linarith [near.bounds.1]
    exact Nat.lt_succ_iff.mp (by exact_mod_cast bound)
  obtain rfl | rfl : whole = quotient ∨ whole = quotient + 1 := by omega
  · rcases near with ⟨-, high⟩ | ⟨even, low | high⟩
    · rw [if_pos (by linarith)]
    · linarith
    · rw [if_neg (by linarith), if_neg (by linarith), even]
      rfl
  · unfold RoundsTo at near
    push_cast at near
    rcases near with ⟨low, -⟩ | ⟨even, low | high⟩
    · rw [if_neg (by linarith), if_pos (by linarith)]
    · rw [if_neg (by linarith), if_neg (by linarith)]
      omega
    · linarith

theorem roundsTo_roundDiv (numerator : ℕ) {denominator : ℕ} (positive : 0 < denominator) :
    RoundsTo (numerator / denominator) (roundDiv numerator denominator) := by
  have less : ((numerator % denominator : ℕ) : ℚ) / denominator < 1 := by
    rw [div_lt_one (by exact_mod_cast positive)]
    exact_mod_cast Nat.mod_lt numerator positive
  have nonneg : (0 : ℚ) ≤ (numerator % denominator : ℕ) / denominator := by positivity
  rw [quotient_add_rest positive]
  unfold roundDiv
  simp only [two_mul_lt_iff positive, lt_two_mul_iff positive]
  generalize ((numerator % denominator : ℕ) : ℚ) / denominator = rest at less nonneg
  generalize numerator / denominator = quotient
  split
  next low => exact Or.inl ⟨by linarith, by linarith⟩
  split
  next high => exact Or.inl ⟨by push_cast; linarith, by push_cast; linarith⟩
  next notLow notHigh =>
    have half : rest = 1 / 2 := le_antisymm (not_lt.mp notHigh) (not_lt.mp notLow)
    refine Or.inr ⟨by omega, ?_⟩
    rcases Nat.mod_two_eq_zero_or_one quotient with even | odd
    · rw [even]
      exact Or.inr (by push_cast; linarith)
    · rw [odd]
      exact Or.inl (by push_cast; linarith)

theorem roundDiv_le_of_lt {numerator denominator : ℕ} (positive : 0 < denominator)
    (below : (numerator : ℚ) / denominator < 2 ^ 53) : roundDiv numerator denominator ≤ 2 ^ 53 := by
  have quotient : numerator / denominator < 2 ^ 53 := by
    rw [Nat.div_lt_iff_lt_mul positive]
    rw [div_lt_iff₀ (by exact_mod_cast positive)] at below
    exact_mod_cast below
  have rounded := roundDiv_le numerator denominator
  omega

/-! ## The binary exponent -/

theorem two_pow_toNat (exponent : ℤ) :
    (2 : ℚ) ^ exponent.toNat = 2 ^ exponent * 2 ^ (-exponent).toNat := by
  rw [← zpow_natCast, ← zpow_natCast, ← zpow_add₀ (by norm_num)]
  congr 1
  omega

theorem scaled_quotient (numerator : ℕ) {denominator : ℕ} (positive : 0 < denominator) (exponent : ℤ) :
    ((numerator * Nat.pow 2 (-exponent).toNat : ℕ) : ℚ) / (denominator * Nat.pow 2 exponent.toNat : ℕ)
      = numerator / denominator / 2 ^ exponent := by
  have scale : (denominator : ℚ) ≠ 0 := by exact_mod_cast positive.ne'
  have power : (2 : ℚ) ^ exponent ≠ 0 := by positivity
  have fraction : (2 : ℚ) ^ (-exponent).toNat ≠ 0 := by positivity
  have whole := two_pow_toNat exponent
  push_cast [Nat.pow_eq]
  rw [whole]
  field_simp

theorem reaches_iff (numerator : ℕ) {denominator : ℕ} (positive : 0 < denominator) (exponent : ℤ) :
    denominator * Nat.pow 2 exponent.toNat ≤ numerator * Nat.pow 2 (-exponent).toNat ↔
      (2 : ℚ) ^ exponent ≤ numerator / denominator := by
  have quotient := scaled_quotient numerator positive exponent
  have power : (0 : ℚ) < 2 ^ exponent := by positivity
  have product : (0 : ℚ) < (denominator * Nat.pow 2 exponent.toNat : ℕ) := by
    exact_mod_cast Nat.mul_pos positive (Nat.two_pow_pos exponent.toNat)
  rw [← Nat.cast_le (α := ℚ), ← one_le_div product, quotient, one_le_div power]

theorem log2_bounds {number : ℕ} (positive : 0 < number) :
    (2 : ℚ) ^ (Nat.log2 number : ℤ) ≤ number ∧ (number : ℚ) < 2 ^ (Nat.log2 number : ℤ) * 2 := by
  constructor
  · rw [zpow_natCast]
    exact_mod_cast Nat.log2_self_le positive.ne'
  · rw [← zpow_add_one₀ (by norm_num)]
    exact_mod_cast Nat.lt_log2_self (n := number)

theorem binaryExponent_spec {numerator denominator : ℕ} (some : 0 < numerator) (positive : 0 < denominator) :
    (2 : ℚ) ^ binaryExponent numerator denominator ≤ numerator / denominator ∧
      (numerator : ℚ) / denominator < 2 ^ (binaryExponent numerator denominator + 1) := by
  have scale : (0 : ℚ) < denominator := by exact_mod_cast positive
  obtain ⟨numeratorLow, numeratorHigh⟩ := log2_bounds some
  obtain ⟨denominatorLow, denominatorHigh⟩ := log2_bounds positive
  unfold binaryExponent
  simp only [reaches_iff numerator positive]
  generalize (Nat.log2 numerator : ℤ) = top at numeratorLow numeratorHigh
  generalize (Nat.log2 denominator : ℤ) = bottom at denominatorLow denominatorHigh
  have product : (2 : ℚ) ^ top = 2 ^ (top - bottom) * 2 ^ bottom := by
    rw [← zpow_add₀ (by norm_num)]
    congr 1
    omega
  have power : (0 : ℚ) < 2 ^ (top - bottom) := by positivity
  have above : (numerator : ℚ) / denominator < 2 ^ (top - bottom) * 2 := by
    rw [div_lt_iff₀ scale]
    have := mul_le_mul_of_nonneg_left denominatorLow power.le
    linarith
  split
  next reached => exact ⟨reached, by rw [zpow_add_one₀ (by norm_num)]; exact above⟩
  next missed =>
    refine ⟨?_, by rw [sub_add_cancel]; exact lt_of_not_ge missed⟩
    rw [zpow_sub_one₀ (by norm_num), le_div_iff₀ scale]
    have := mul_lt_mul_of_pos_left denominatorHigh power
    linarith

theorem binaryExponent_eq {numerator denominator : ℕ} {exponent : ℤ} (some : 0 < numerator)
    (positive : 0 < denominator) (low : (2 : ℚ) ^ exponent ≤ numerator / denominator)
    (high : (numerator : ℚ) / denominator < 2 ^ (exponent + 1)) :
    binaryExponent numerator denominator = exponent := by
  obtain ⟨ownLow, ownHigh⟩ := binaryExponent_spec some positive
  have first := (zpow_lt_zpow_iff_right₀ (by norm_num : (1 : ℚ) < 2)).mp (ownLow.trans_lt high)
  have second := (zpow_lt_zpow_iff_right₀ (by norm_num : (1 : ℚ) < 2)).mp (low.trans_lt ownHigh)
  omega

/-! ## The nearest double -/

theorem nearest_of_roundsTo {numerator denominator mantissa : ℕ} {exponent : ℤ} (some : 0 < numerator)
    (positive : 0 < denominator) (least : -1074 ≤ exponent) (greatest : exponent ≤ 971)
    (low : (2 : ℚ) ^ (exponent + 52) ≤ numerator / denominator ∨ exponent = -1074)
    (high : (numerator : ℚ) / denominator < 2 ^ (exponent + 53))
    (near : RoundsTo (numerator / denominator / 2 ^ exponent) mantissa) :
    nearest numerator denominator = assemble mantissa exponent := by
  have place : max (binaryExponent numerator denominator - 52) (-1074) = exponent := by
    rcases low with low | equal
    · rw [binaryExponent_eq some positive low (by rwa [add_assoc])]
      omega
    · have own := (binaryExponent_spec some positive).1
      have := (zpow_lt_zpow_iff_right₀ (by norm_num : (1 : ℚ) < 2)).mp (own.trans_lt high)
      omega
  have rounded : roundDiv (numerator * Nat.pow 2 (-exponent).toNat) (denominator * Nat.pow 2 exponent.toNat)
      = mantissa :=
    roundDiv_of_roundsTo (Nat.mul_pos positive (Nat.two_pow_pos _)) (by rwa [scaled_quotient _ positive])
  unfold nearest
  simp only [place, if_neg some.ne', if_neg (show ¬exponent > 971 by omega), rounded]

/-! ## The interval of a double -/

namespace Parts

structure Proper (exact : Parts) : Prop where
  positive : 0 < exact.mantissa
  bounded : exact.mantissa < 2 ^ 53
  least : -1074 ≤ exact.exponent
  greatest : exact.exponent ≤ 971
  full : 2 ^ 52 ≤ exact.mantissa ∨ exact.exponent = -1074

/-- The distance to the border below, in the last place of the double. -/
def lower (exact : Parts) : ℚ :=
  if exact.mantissa = 2 ^ 52 ∧ -1074 < exact.exponent then 1 / 4 else 1 / 2

def Near (exact : Parts) (x : ℚ) : Prop :=
  let places := x / 2 ^ exact.exponent
  (exact.mantissa - exact.lower < places ∧ places < exact.mantissa + 1 / 2) ∨
    (exact.mantissa % 2 = 0 ∧ (places = exact.mantissa - exact.lower ∨ places = exact.mantissa + 1 / 2))

end Parts

theorem assemble_carry {exponent : ℤ} (least : -1075 ≤ exponent) (greatest : exponent ≤ 970) :
    assemble (Nat.pow 2 53) exponent = assemble (Nat.pow 2 52) (exponent + 1) := by
  have biased : (exponent + 1 + 1075).toNat = (exponent + 1076).toNat := by omega
  unfold assemble
  rw [if_neg (by decide), if_pos rfl, if_neg (by omega), if_neg (by decide), if_neg (by decide), if_neg (by omega),
    biased, Nat.sub_self, Nat.add_zero]

theorem places_compare (x : ℚ) (exponent : ℤ) (bits : ℕ) :
    ((2 : ℚ) ^ (exponent + bits) ≤ x ↔ 2 ^ bits ≤ x / 2 ^ exponent) ∧
      (x < 2 ^ (exponent + bits) ↔ x / 2 ^ exponent < 2 ^ bits) := by
  have power : (0 : ℚ) < 2 ^ exponent := by positivity
  rw [zpow_add₀ (by norm_num), zpow_natCast, le_div_iff₀ power, div_lt_iff₀ power, mul_comm]
  exact ⟨Iff.rfl, Iff.rfl⟩

theorem Parts.lower_pos (exact : Parts) : 0 < exact.lower := by
  unfold Parts.lower
  split <;> norm_num

theorem Parts.near_self (exact : Parts) : exact.Near (exact.mantissa * 2 ^ exact.exponent) := by
  have lowerPositive := exact.lower_pos
  have power : (2 : ℚ) ^ exact.exponent ≠ 0 := by positivity
  refine Or.inl ?_
  rw [mul_div_cancel_right₀ _ power]
  constructor <;> linarith

theorem Parts.Near.bounds {exact : Parts} {x : ℚ} (near : exact.Near x) :
    exact.mantissa - exact.lower ≤ x / 2 ^ exact.exponent ∧ x / 2 ^ exact.exponent ≤ exact.mantissa + 1 / 2 := by
  have lowerPositive := exact.lower_pos
  rcases near with ⟨low, high⟩ | ⟨-, equal | equal⟩
  · exact ⟨low.le, high.le⟩
  · constructor <;> linarith
  · constructor <;> linarith

/-- Below the least mantissa of 53 bits the double is the next one after those of the exponent before. -/
theorem nearest_of_near_below {exact : Parts} (proper : exact.Proper) {numerator denominator : ℕ}
    (some : 0 < numerator) (positive : 0 < denominator) (near : exact.Near (numerator / denominator))
    (narrow : exact.mantissa = 2 ^ 52 ∧ -1074 < exact.exponent)
    (below : (numerator : ℚ) / denominator / 2 ^ exact.exponent < 2 ^ 52) :
    nearest numerator denominator = assemble exact.mantissa exact.exponent := by
  obtain ⟨leastMantissa, least⟩ := narrow
  have lower : exact.lower = 1 / 4 := if_pos ⟨leastMantissa, least⟩
  have double : (numerator : ℚ) / denominator / 2 ^ (exact.exponent - 1)
      = 2 * (numerator / denominator / 2 ^ exact.exponent) := by
    rw [zpow_sub_one₀ (by norm_num)]
    field_simp
  have rounds : RoundsTo (numerator / denominator / 2 ^ (exact.exponent - 1)) (Nat.pow 2 53) := by
    rw [double]
    simp only [Parts.Near, lower, leastMantissa] at near
    push_cast at near
    unfold RoundsTo
    push_cast [Nat.pow_eq]
    rcases near with ⟨low, -⟩ | ⟨-, low | high⟩
    · exact Or.inl ⟨by linarith, by linarith⟩
    · exact Or.inr ⟨by decide, Or.inl (by linarith)⟩
    · linarith
  have low := near.bounds.1
  rw [lower, leastMantissa] at low
  push_cast at low
  have greatest := proper.greatest
  rw [nearest_of_roundsTo some positive (by omega) (by omega) (Or.inl ?_) ?_ rounds,
    assemble_carry (by omega) (by omega), sub_add_cancel, leastMantissa]
  · rfl
  · refine (places_compare _ _ 52).1.mpr ?_
    rw [double]
    linarith
  · refine (places_compare _ _ 53).2.mpr ?_
    rw [double]
    linarith

theorem Parts.lower_le (exact : Parts) : exact.lower ≤ 1 / 2 := by
  unfold Parts.lower
  split <;> norm_num

section Above

variable {exact : Parts} {x : ℚ} (near : exact.Near x)
  (notBelow : exact.mantissa = 2 ^ 52 ∧ -1074 < exact.exponent → (2 : ℚ) ^ 52 ≤ x / 2 ^ exact.exponent)

include near notBelow

theorem Parts.Near.roundsTo : RoundsTo (x / 2 ^ exact.exponent) exact.mantissa := by
  simp only [Parts.Near] at near
  by_cases narrow : exact.mantissa = 2 ^ 52 ∧ -1074 < exact.exponent
  · have above := notBelow narrow
    have cast : (exact.mantissa : ℚ) = 2 ^ 52 := by rw [narrow.1]; norm_num
    have lower : exact.lower = 1 / 4 := if_pos narrow
    rw [lower] at near
    rcases near with ⟨-, high⟩ | ⟨even, equal | equal⟩
    · exact Or.inl ⟨by linarith, high⟩
    · linarith
    · exact Or.inr ⟨even, Or.inr equal⟩
  · rwa [show exact.lower = 1 / 2 from if_neg narrow] at near

theorem Parts.Near.full (proper : exact.Proper) : (2 : ℚ) ^ (exact.exponent + 52) ≤ x ∨ exact.exponent = -1074 := by
  rcases proper.full with full | least
  · by_cases narrow : exact.mantissa = 2 ^ 52 ∧ -1074 < exact.exponent
    · exact Or.inl ((places_compare _ _ 52).1.mpr (notBelow narrow))
    · by_cases leastMantissa : exact.mantissa = 2 ^ 52
      · have := proper.least
        have : ¬-1074 < exact.exponent := fun more => narrow ⟨leastMantissa, more⟩
        exact Or.inr (by omega)
      · have more : (2 : ℚ) ^ 52 + 1 ≤ exact.mantissa := by
          exact_mod_cast Nat.succ_le_of_lt (lt_of_le_of_ne full (Ne.symm leastMantissa))
        exact Or.inl ((places_compare _ _ 52).1.mpr (by linarith [near.bounds.1, exact.lower_le]))
  · exact Or.inr least

end Above

theorem nearest_of_near {exact : Parts} (proper : exact.Proper) {numerator denominator : ℕ}
    (positive : 0 < denominator) (near : exact.Near (numerator / denominator)) :
    nearest numerator denominator = assemble exact.mantissa exact.exponent := by
  obtain ⟨low, high⟩ := near.bounds
  have some : 0 < numerator := by
    have mantissaGe : (1 : ℚ) ≤ exact.mantissa := by exact_mod_cast proper.positive
    rcases Nat.eq_zero_or_pos numerator with zero | some
    · rw [zero] at low
      simp only [Nat.cast_zero, zero_div] at low
      linarith [exact.lower_le]
    · exact some
  by_cases below : (exact.mantissa = 2 ^ 52 ∧ -1074 < exact.exponent) ∧
      (numerator : ℚ) / denominator / 2 ^ exact.exponent < 2 ^ 52
  · exact nearest_of_near_below proper some positive near below.1 below.2
  have notBelow : exact.mantissa = 2 ^ 52 ∧ -1074 < exact.exponent →
      (2 : ℚ) ^ 52 ≤ numerator / denominator / 2 ^ exact.exponent :=
    fun narrow => not_lt.mp fun under => below ⟨narrow, under⟩
  have mantissaLe : (exact.mantissa : ℚ) + 1 ≤ 2 ^ 53 := by exact_mod_cast proper.bounded
  exact nearest_of_roundsTo some positive proper.least proper.greatest (near.full notBelow proper)
    ((places_compare _ _ 53).2.mpr (by linarith)) (near.roundsTo notBelow)

/-! ## What a quotient is rounded to -/

/-- A mantissa and an exponent that the number is rounded to. The mantissa has all its bits unless the exponent is the
least. -/
structure Rounded (x : ℚ) (mantissa : ℕ) (exponent : ℤ) : Prop where
  roundsTo : RoundsTo (x / 2 ^ exponent) mantissa
  bounded : mantissa ≤ 2 ^ 53
  below : x / 2 ^ exponent < 2 ^ 53
  full : (2 : ℚ) ^ 52 ≤ x / 2 ^ exponent ∨ exponent = -1074
  least : -1074 ≤ exponent
  greatest : exponent ≤ 971

theorem Rounded.near {x : ℚ} {mantissa : ℕ} {exponent : ℤ} (rounded : Rounded x mantissa exponent) :
    |mantissa - x / 2 ^ exponent| ≤ 1 / 2 := by
  obtain ⟨low, high⟩ := rounded.roundsTo.bounds
  exact abs_le.mpr ⟨by linarith, by linarith⟩

theorem nearest_cases {numerator denominator : ℕ} (some : 0 < numerator) (positive : 0 < denominator) :
    (nearest numerator denominator = infinity ∧ (2 : ℚ) ^ (1024 : ℤ) ≤ numerator / denominator) ∨
      ∃ mantissa exponent, Rounded (numerator / denominator) mantissa exponent ∧
        nearest numerator denominator = assemble mantissa exponent := by
  obtain ⟨low, high⟩ := binaryExponent_spec some positive
  obtain ⟨exponent, place⟩ : ∃ exponent, max (binaryExponent numerator denominator - 52) (-1074) = exponent := ⟨_, rfl⟩
  unfold nearest
  simp only [if_neg some.ne', place]
  split
  next beyond => exact Or.inl ⟨rfl, (zpow_le_zpow_right₀ (by norm_num) (by omega)).trans low⟩
  next within =>
    have scale : 0 < denominator * Nat.pow 2 exponent.toNat := Nat.mul_pos positive (Nat.two_pow_pos _)
    have near := roundsTo_roundDiv (numerator * Nat.pow 2 (-exponent).toNat) scale
    have below : (numerator : ℚ) / denominator < 2 ^ (exponent + (53 : ℕ)) :=
      high.trans_le (zpow_le_zpow_right₀ (by norm_num) (by omega))
    rw [(places_compare _ exponent 53).2] at below
    have bounded := roundDiv_le_of_lt scale (by rwa [scaled_quotient numerator positive])
    rw [scaled_quotient numerator positive] at near
    have full : (2 : ℚ) ^ 52 ≤ numerator / denominator / 2 ^ exponent ∨ exponent = -1074 := by
      rcases le_or_gt (binaryExponent numerator denominator - 52) (-1074) with small | large
      · exact Or.inr (by omega)
      · left
        rw [← (places_compare _ exponent 52).1]
        exact (zpow_le_zpow_right₀ (by norm_num) (by omega)).trans low
    exact Or.inr ⟨_, exponent, ⟨near, bounded, below, full, by omega, by omega⟩, rfl⟩

end Worksheet.Double
