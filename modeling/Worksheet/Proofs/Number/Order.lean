import Mathlib
import Worksheet.Number.Literal
import Worksheet.Proofs.Number.Parts
import Worksheet.Proofs.Outcome

/-! The order of doubles. Two doubles have one unless one of them is no number, and neither rounding nor reading ever
makes such a double: it only comes from a cell or out of arithmetic. -/

namespace Worksheet

namespace Double

open Float.Model

/-! ## Comparing -/

theorem compare_unpacked_swap (left right : UnpackedFloat) :
    right.compare left = (left.compare right).map Ordering.swap := by
  cases left with
  | notANumber => cases right <;> rfl
  | infinity sign =>
    cases right with
    | infinity other => cases sign <;> cases other <;> rfl
    | _ => cases sign <;> rfl
  | zero sign =>
    cases right with
    | infinity other => cases other <;> rfl
    | finite other _ _ _ => cases other <;> rfl
    | _ => rfl
  | finite sign mantissa exponent positive =>
    cases right with
    | notANumber => rfl
    | infinity other => cases sign <;> cases other <;> rfl
    | zero other => cases sign <;> rfl
    | finite other otherMantissa otherExponent _ =>
      have magnitudes : ((compare exponent otherExponent).then (compare mantissa otherMantissa)).swap =
          (compare otherExponent exponent).then (compare otherMantissa mantissa) := by
        rw [Ordering.swap_then, Int.compare_swap, Nat.compare_swap]
      cases sign with
      | positive =>
        cases other with
        | positive => exact congrArg some magnitudes.symm
        | negative => rfl
      | negative =>
        cases other with
        | positive => rfl
        | negative => simp only [UnpackedFloat.compare, Option.map_some, ← magnitudes]

theorem compare_unpacked_eq_none {left right : UnpackedFloat} :
    left.compare right = none ↔ left.isNaN = true ∨ right.isNaN = true := by
  cases left with
  | notANumber => simp [UnpackedFloat.compare, UnpackedFloat.isNaN]
  | infinity sign => cases right <;> cases sign <;> simp [UnpackedFloat.compare, UnpackedFloat.isNaN]
  | zero sign =>
    cases right with
    | infinity other => cases other <;> simp [UnpackedFloat.compare, UnpackedFloat.isNaN]
    | finite other _ _ _ => cases other <;> simp [UnpackedFloat.compare, UnpackedFloat.isNaN]
    | _ => simp [UnpackedFloat.compare, UnpackedFloat.isNaN]
  | finite sign _ _ _ =>
    cases right with
    | infinity other => cases sign <;> cases other <;> simp [UnpackedFloat.compare, UnpackedFloat.isNaN]
    | finite other _ _ _ => cases sign <;> cases other <;> simp [UnpackedFloat.compare, UnpackedFloat.isNaN]
    | _ => cases sign <;> simp [UnpackedFloat.compare, UnpackedFloat.isNaN]

def order? (x y : Float) : Option Ordering :=
  x.toModel.compare y.toModel

theorem order_swap (x y : Float) : order? y x = (order? x y).map Ordering.swap :=
  compare_unpacked_swap x.toModel.unpack y.toModel.unpack

theorem order_eq_none {x y : Float} : order? x y = none ↔ x.isNaN = true ∨ y.isNaN = true :=
  compare_unpacked_eq_none

theorem lt_iff {x y : Float} : x < y ↔ order? x y = some .lt := by
  change decide (x.toModel < y.toModel) = true ↔ _
  rw [decide_eq_true_iff]
  change (order? x y == some .lt) = true ↔ _
  exact beq_iff_eq

theorem gt_iff {x y : Float} : y < x ↔ order? x y = some .gt := by
  rw [lt_iff, order_swap]
  cases order? x y with
  | none => simp
  | some order => cases order <;> simp [Ordering.swap]

theorem beq_iff {x y : Float} : (x == y) = true ↔ order? x y = some .eq := by
  change (order? x y == some .eq) = true ↔ _
  exact beq_iff_eq

/-! ## Doubles that are numbers -/

theorem isNaN_ofBits {bits : ℕ} (finite : bits / 2 ^ 52 % 2048 ≠ 2047) (bounded : bits < 2 ^ 64) :
    (Float.ofBits bits.toUInt64).isNaN = false :=
  isNaN_of_isFinite (isFinite_ofBits finite bounded)

theorem isNaN_infinity : infinity.isNaN = false := by
  decide +kernel

theorem eq_notANumber_of_pack {unpacked : UnpackedFloat}
    (packed : UnpackedFloat.pack .binary64 unpacked = UnpackedFloat.packedNaN .binary64) :
    unpacked = .notANumber := by
  have exponents := congrArg UnpackedFloat.unpackExponent packed
  have mantissas := congrArg UnpackedFloat.unpackMantissa packed
  cases unpacked with
  | notANumber => rfl
  | infinity sign => simp [UnpackedFloat.pack, UnpackedFloat.packedInfinity, UnpackedFloat.packedNaN] at mantissas
  | zero sign => simp [UnpackedFloat.pack, UnpackedFloat.packedZero, UnpackedFloat.packedNaN] at exponents
  | finite sign mantissa exponent positive =>
    simp only [UnpackedFloat.pack] at exponents mantissas
    split at exponents
    next large =>
      rw [if_pos large] at mantissas
      simp [UnpackedFloat.packedInfinity, UnpackedFloat.packedNaN] at mantissas
    next small =>
      split at exponents
      next =>
        -- The exponent of a finite double is never all ones.
        rw [UnpackedFloat.unpackExponent_packComponents, UnpackedFloat.packedNaN,
          UnpackedFloat.unpackExponent_packComponents] at exponents
        have values := congrArg BitVec.toNat exponents
        rw [BitVec.toNat_ofNat] at values
        change _ % 2048 = 2047 at values
        change ¬2048 ≤ _ at small
        omega
      next => simp [UnpackedFloat.packedNaN] at exponents

theorem isNaN_neg {x : Float} (number : x.isNaN = false) : (-x).isNaN = false := by
  rw [Bool.eq_false_iff]
  intro packed
  have same := (UnpackedFloat.isNaN_unpack_iff_of_valid (-x).toModel.valid).mp packed
  have negated := eq_notANumber_of_pack same
  change x.toModel.unpack.isNaN = false at number
  cases unpacked : x.toModel.unpack with
  | notANumber =>
    rw [unpacked] at number
    cases number
  | _ =>
    rw [unpacked] at negated
    cases negated

theorem isNaN_withSign {x : Float} (negative : Bool) (number : x.isNaN = false) :
    (withSign negative x).isNaN = false := by
  unfold withSign
  split
  · exact isNaN_neg number
  · exact number

theorem isNaN_assemble {mantissa : ℕ} (exponent : ℤ) (bounded : mantissa ≤ 2 ^ 53) :
    (assemble mantissa exponent).isNaN = false := by
  unfold assemble
  simp only [Nat.pow_eq]
  split
  · exact isNaN_ofBits (by omega) (by omega)
  split
  · split
    · exact isNaN_infinity
    · exact isNaN_ofBits (by omega) (by omega)
  split
  · exact isNaN_infinity
  · exact isNaN_ofBits (by omega) (by omega)

theorem isNaN_nearest (numerator : ℕ) {denominator : ℕ} (positive : 0 < denominator) :
    (nearest numerator denominator).isNaN = false := by
  rcases Nat.eq_zero_or_pos numerator with rfl | some
  · rw [nearest, if_pos rfl]
    decide +kernel
  rcases nearest_cases some positive with ⟨beyond, _⟩ | ⟨mantissa, exponent, rounded, assembled⟩
  · rw [beyond]
    exact isNaN_infinity
  · rw [assembled]
    exact isNaN_assemble exponent rounded.bounded

theorem isNaN_nearestInt (numerator : ℤ) {denominator : ℕ} (positive : 0 < denominator) :
    (nearestInt numerator denominator).isNaN = false :=
  isNaN_withSign _ (isNaN_nearest _ positive)

end Double

theorem Literal.isNaN_nearestDecimal (digits : ℕ) (exponent : ℤ) : (nearestDecimal digits exponent).isNaN = false := by
  unfold nearestDecimal
  simp only
  split
  · decide +kernel
  split
  · exact Double.isNaN_infinity
  split
  · decide +kernel
  · exact Double.isNaN_nearest _ (Nat.pow_pos (by norm_num))

namespace Number

/-- A place among the other numbers is what all have but the double that is no number. -/
def isOrdered : Number → Bool
  | integer _ => true
  | double x => !x.isNaN

theorem isNaN_of_toDouble {number : Number} {x : Float} (converted : number.toDouble = .ok x) :
    x.isNaN = !number.isOrdered := by
  cases number with
  | double value =>
    cases converted
    simp [isOrdered]
  | integer value =>
    rw [toDouble, Double.ofInt?] at converted
    have number := Double.isNaN_nearestInt value (show 0 < 1 by decide)
    split at converted
    next found =>
      split at found
      · cases found
      · cases found
        cases converted
        exact number
    next => cases converted

theorem isOrdered_of_value {literal : Literal} {number : Number} (value : literal.value = .ok number) :
    number.isOrdered = true := by
  unfold Literal.value at value
  split at value
  · obtain ⟨magnitude, _, same⟩ := bind_eq_ok.mp value
    cases same
    rfl
  · cases value
    rw [isOrdered, Double.isNaN_withSign _ (Literal.isNaN_nearestDecimal _ _)]
    rfl

theorem isOrdered_of_readPrefix {text : Text} {number : Number} (read : readPrefix text = .ok (some number)) :
    number.isOrdered = true := by
  unfold readPrefix at read
  simp only at read
  split at read
  · cases read
    rw [isOrdered, Double.isNaN_withSign _ Double.isNaN_infinity]
    rfl
  · split at read
    · cases read
    next literal _ _ =>
      cases value : literal.value with
      | error failure =>
        rw [value] at read
        cases read
      | ok own =>
        rw [value] at read
        cases read
        exact isOrdered_of_value value

theorem exists_compare {left right : Number} (first : left.isOrdered = true) (second : right.isOrdered = true) :
    ∃ order, left.compare? right = some order := by
  cases left with
  | integer whole =>
    cases right with
    | integer other => exact ⟨_, rfl⟩
    | double x =>
      have number : x.isNaN = false := by simpa [isOrdered] using second
      simp only [compare?, number, Bool.false_eq_true, if_false]
      split <;> exact ⟨_, rfl⟩
  | double x =>
    have number : x.isNaN = false := by simpa [isOrdered] using first
    cases right with
    | integer other =>
      simp only [compare?, number, Bool.false_eq_true, if_false]
      split <;> exact ⟨_, rfl⟩
    | double y =>
      have other : y.isNaN = false := by simpa [isOrdered] using second
      cases found : Double.order? x y with
      | none =>
        rcases Double.order_eq_none.mp found with missing | missing
        · rw [number] at missing
          cases missing
        · rw [other] at missing
          cases missing
      | some order =>
        have swapped : Double.order? y x = some order.swap := by rw [Double.order_swap, found, Option.map_some]
        refine ⟨order, ?_⟩
        simp only [compare?, gt_iff_lt, Double.lt_iff, Double.beq_iff, found, swapped]
        cases order <;> rfl

theorem le_eq_not_gt {left right : Number} (first : left.isOrdered = true) (second : right.isOrdered = true) :
    left.le right = !left.gt right := by
  obtain ⟨order, found⟩ := exists_compare first second
  simp only [le, lt, gt, eq, found]
  cases order <;> rfl

end Number

end Worksheet
