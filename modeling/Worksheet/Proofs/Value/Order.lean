import Mathlib.Order.Lattice
import Worksheet.Formula.Comparison
import Worksheet.Proofs.Number.Order
import Worksheet.Proofs.Value.Decidable

/-! Order and equality of values. Both compare the same two things, two doubles or two texts, so they agree wherever
these have an order at all, and every relation is told by that order. -/

namespace Worksheet

namespace Value

/-! ## Order of texts -/

theorem textOrder_swap (left right : Text) : textOrder right left = (textOrder left right).swap := by
  induction left generalizing right with
  | nil => cases right <;> rfl
  | cons char rest ih =>
    cases right with
    | nil => rfl
    | cons other later =>
      simp only [textOrder]
      by_cases less : char < other
      · have notGreater : ¬other < char := Char.lt_asymm less
        simp [less, notGreater]
      · by_cases greater : other < char
        · simp [less, greater]
        · simp [less, greater, ih later]

theorem textOrder_eq_iff {left right : Text} : textOrder left right = .eq ↔ left = right := by
  induction left generalizing right with
  | nil => cases right <;> simp [textOrder]
  | cons char rest ih =>
    cases right with
    | nil => simp [textOrder]
    | cons other later =>
      simp only [textOrder, List.cons.injEq]
      by_cases less : char < other
      · have different : char ≠ other := by
          rintro rfl
          exact Char.lt_irrefl _ less
        simp [less, different]
      · by_cases greater : other < char
        · have different : char ≠ other := by
            rintro rfl
            exact Char.lt_irrefl _ greater
          simp [less, greater, different]
        · have same : char = other := Char.le_antisymm (Char.not_lt.mp greater) (Char.not_lt.mp less)
          simp [same, ih]

/-! ## What is compared -/

namespace Comparands

def order? : Comparands → Option Ordering
  | numbers x y => Double.order? x y
  | texts first second => some (textOrder first second)

def swap : Comparands → Comparands
  | numbers x y => numbers y x
  | texts first second => texts second first

theorem order_swap (both : Comparands) : both.swap.order? = both.order?.map Ordering.swap := by
  cases both with
  | numbers x y => exact Double.order_swap x y
  | texts first second => exact congrArg some (textOrder_swap first second)

end Comparands

theorem compare_of_comparands {left right : Value} {both : Comparands}
    (found : comparands left right = .ok both) : left.compare right = .ok (both.order?.getD .eq) := by
  rw [compare, found]
  cases both with
  | texts first second => rfl
  | numbers x y =>
    have less := @Double.lt_iff x y
    have greater := @Double.gt_iff x y
    change Except.ok (if y < x then Ordering.gt else if x < y then .lt else .eq) = _
    simp only [less, greater, Comparands.order?]
    cases Double.order? x y with
    | none => rfl
    | some order => cases order <;> rfl

theorem equal_of_comparands {left right : Value} {both : Comparands}
    (found : comparands left right = .ok both) : left.equal right = .ok (both.order? == some .eq) := by
  rw [equal, found]
  cases both with
  | numbers x y =>
    have same : (x == y) = (Double.order? x y == some .eq) := by
      rw [Bool.eq_iff_iff, Double.beq_iff, beq_iff_eq]
    exact congrArg Except.ok same
  | texts first second =>
    have same : (first == second) = (some (textOrder first second) == some .eq) := by
      rw [Bool.eq_iff_iff, beq_iff_eq, beq_iff_eq, Option.some.injEq, textOrder_eq_iff]
    exact congrArg Except.ok same

theorem exists_comparands {left right : Value} {order : Ordering} (compared : left.compare right = .ok order) :
    ∃ both, comparands left right = .ok both ∧ both.order?.getD .eq = order := by
  obtain ⟨both, found, _⟩ := bind_eq_ok.mp compared
  rw [compare_of_comparands found] at compared
  exact ⟨both, found, Except.ok.inj compared⟩

end Value

namespace Relation

/-- What a relation makes of an order, or of there being none. -/
def admits (order : Option Ordering) : Relation → Bool
  | equal => order == some .eq
  | notEqual => order != some .eq
  | less => order == some .lt
  | lessOrEqual => order != some .gt
  | greater => order == some .gt
  | greaterOrEqual => order != some .lt

theorem holds_of_comparands {left right : Value} {both : Value.Comparands}
    (found : Value.comparands left right = .ok both) (relation : Relation) :
    relation.holds left right = .ok (relation.admits both.order?) := by
  have compared := Value.compare_of_comparands found
  have equated := Value.equal_of_comparands found
  cases relation with
  | equal => exact equated
  | notEqual =>
    rw [holds, equated]
    rfl
  | less =>
    rw [holds, compared]
    rcases both.order? with _ | _ | _ | _ <;> rfl
  | lessOrEqual =>
    rw [holds, compared]
    rcases both.order? with _ | _ | _ | _ <;> rfl
  | greater =>
    rw [holds, compared]
    rcases both.order? with _ | _ | _ | _ <;> rfl
  | greaterOrEqual =>
    rw [holds, compared]
    rcases both.order? with _ | _ | _ | _ <;> rfl

end Relation

namespace Value

/-! ## The two sides -/

def ofSides (left right : Value) : Except Failure Comparands := do
  if ← bothNumeric left right then
    let x ← (← left.toNumber).toDouble
    let y ← (← right.toNumber).toDouble
    return .numbers x y
  else
    let first ← left.toText
    let second ← right.toText
    return .texts (Text.lower first) (Text.lower second)

theorem exists_sides {left right : Value} {both : Comparands} (found : comparands left right = .ok both) :
    ∃ first second, blankAsZero left right = .ok (first, second) ∧ ofSides first second = .ok both := by
  obtain ⟨⟨first, second⟩, taken, compared⟩ := bind_eq_ok.mp found
  exact ⟨first, second, taken, compared⟩

theorem comparands_of_sides {left right first second : Value} {both : Comparands}
    (taken : blankAsZero left right = .ok (first, second)) (compared : ofSides first second = .ok both) :
    comparands left right = .ok both :=
  bind_eq_ok.mpr ⟨(first, second), taken, compared⟩

theorem bothNumeric_eq_ok_true {left right : Value} :
    bothNumeric left right = .ok true ↔ left.isNumeric = .ok true ∧ right.isNumeric = .ok true := by
  unfold bothNumeric
  cases left.isNumeric with
  | error failure => simp [bind, Except.bind]
  | ok numeric => cases numeric <;> simp [bind, Except.bind, pure, Except.pure]

theorem bothNumeric_eq_ok_false {left right : Value} :
    bothNumeric left right = .ok false ↔
      left.isNumeric = .ok false ∨ (left.isNumeric = .ok true ∧ right.isNumeric = .ok false) := by
  unfold bothNumeric
  cases left.isNumeric with
  | error failure => simp [bind, Except.bind]
  | ok numeric => cases numeric <;> simp [bind, Except.bind, pure, Except.pure]

theorem ofSides_cases {left right : Value} {both : Comparands} (found : ofSides left right = .ok both) :
    (bothNumeric left right = .ok true ∧ ∃ first second x y, left.toNumber = .ok first ∧ first.toDouble = .ok x ∧
      right.toNumber = .ok second ∧ second.toDouble = .ok y ∧ both = .numbers x y) ∨
    (bothNumeric left right = .ok false ∧ ∃ first second, left.toText = .ok first ∧ right.toText = .ok second ∧
      both = .texts (Text.lower first) (Text.lower second)) := by
  obtain ⟨numeric, tested, onward⟩ := bind_eq_ok.mp found
  cases numeric with
  | true =>
    obtain ⟨first, leftNumber, onward⟩ := bind_eq_ok.mp onward
    obtain ⟨x, leftDouble, onward⟩ := bind_eq_ok.mp onward
    obtain ⟨second, rightNumber, onward⟩ := bind_eq_ok.mp onward
    obtain ⟨y, rightDouble, onward⟩ := bind_eq_ok.mp onward
    exact Or.inl ⟨tested, first, second, x, y, leftNumber, leftDouble, rightNumber, rightDouble,
      (Except.ok.inj onward).symm⟩
  | false =>
    obtain ⟨first, leftText, onward⟩ := bind_eq_ok.mp onward
    obtain ⟨second, rightText, onward⟩ := bind_eq_ok.mp onward
    exact Or.inr ⟨tested, first, second, leftText, rightText, (Except.ok.inj onward).symm⟩

theorem ofSides_swap {left right : Value} {both : Comparands} {numeric : Bool}
    (found : ofSides left right = .ok both) (readable : right.isNumeric = .ok numeric) :
    ofSides right left = .ok both.swap := by
  rcases ofSides_cases found with ⟨tested, first, second, x, y, leftNumber, leftDouble, rightNumber, rightDouble, rfl⟩ |
    ⟨tested, first, second, leftText, rightText, rfl⟩
  · have swapped : bothNumeric right left = .ok true :=
      bothNumeric_eq_ok_true.mpr (bothNumeric_eq_ok_true.mp tested).symm
    simp [ofSides, swapped, leftNumber, leftDouble, rightNumber, rightDouble, bind, Except.bind, pure, Except.pure,
      Comparands.swap]
  · have swapped : bothNumeric right left = .ok false := by
      rw [bothNumeric_eq_ok_false] at tested ⊢
      rcases tested with notLeft | ⟨_, notRight⟩
      · cases numeric with
        | true => exact Or.inr ⟨readable, notLeft⟩
        | false => exact Or.inl readable
      · exact Or.inl notRight
    simp [ofSides, swapped, leftText, rightText, bind, Except.bind, pure, Except.pure, Comparands.swap]

/-! ## An empty side -/

theorem blankAsZero_of_ne {left right : Value} (leftSome : left ≠ empty) (rightSome : right ≠ empty) :
    blankAsZero left right = .ok (left, right) := by
  unfold blankAsZero
  split
  · contradiction
  · contradiction
  · rfl

theorem blankAsZero_empty_left (right : Value) :
    blankAsZero empty right = right.isNumeric >>= fun numeric =>
      if numeric then .ok (integer 0, right) else .ok (empty, right) := by
  rfl

theorem blankAsZero_empty_right (left : Value) :
    blankAsZero left empty = left.isNumeric >>= fun numeric =>
      if numeric then .ok (left, integer 0) else .ok (left, empty) := by
  cases left <;> rfl

theorem blankAsZero_cases {left right first second : Value}
    (taken : blankAsZero left right = .ok (first, second)) :
    (first = left ∧ second = right) ∨
      (left = empty ∧ right.isNumeric = .ok true ∧ first = integer 0 ∧ second = right) ∨
      (right = empty ∧ left.isNumeric = .ok true ∧ first = left ∧ second = integer 0) := by
  by_cases leftEmpty : left = empty
  · rw [leftEmpty, blankAsZero_empty_left] at taken
    obtain ⟨numeric, read, same⟩ := bind_eq_ok.mp taken
    cases numeric with
    | true =>
      cases same
      exact Or.inr (Or.inl ⟨leftEmpty, read, rfl, rfl⟩)
    | false =>
      cases same
      exact Or.inl ⟨leftEmpty.symm, rfl⟩
  · by_cases rightEmpty : right = empty
    · rw [rightEmpty, blankAsZero_empty_right] at taken
      obtain ⟨numeric, read, same⟩ := bind_eq_ok.mp taken
      cases numeric with
      | true =>
        cases same
        exact Or.inr (Or.inr ⟨rightEmpty, read, rfl, rfl⟩)
      | false =>
        cases same
        exact Or.inl ⟨rfl, rightEmpty.symm⟩
    · rw [blankAsZero_of_ne leftEmpty rightEmpty] at taken
      cases taken
      exact Or.inl ⟨rfl, rfl⟩

theorem blankAsZero_swap {left right first second : Value} {numeric : Bool}
    (taken : blankAsZero left right = .ok (first, second)) (readable : right.isNumeric = .ok numeric) :
    blankAsZero right left = .ok (second, first) ∧ ∃ numeric, second.isNumeric = .ok numeric := by
  by_cases leftEmpty : left = empty
  · rw [leftEmpty, blankAsZero_empty_left, readable] at taken
    rw [leftEmpty, blankAsZero_empty_right, readable]
    cases numeric with
    | true =>
      cases taken
      exact ⟨rfl, true, readable⟩
    | false =>
      cases taken
      exact ⟨rfl, false, readable⟩
  · by_cases rightEmpty : right = empty
    · rw [rightEmpty, blankAsZero_empty_right] at taken
      obtain ⟨own, read, same⟩ := bind_eq_ok.mp taken
      rw [rightEmpty, blankAsZero_empty_left, read]
      cases own with
      | true =>
        cases same
        exact ⟨rfl, true, rfl⟩
      | false =>
        cases same
        exact ⟨rfl, false, rfl⟩
    · rw [blankAsZero_of_ne leftEmpty rightEmpty] at taken
      cases taken
      exact ⟨blankAsZero_of_ne rightEmpty leftEmpty, numeric, readable⟩

theorem comparands_swap {left right : Value} {both : Comparands} {numeric : Bool}
    (found : comparands left right = .ok both) (readable : right.isNumeric = .ok numeric) :
    comparands right left = .ok both.swap := by
  obtain ⟨first, second, taken, compared⟩ := exists_sides found
  obtain ⟨swapped, _, secondReadable⟩ := blankAsZero_swap taken readable
  exact comparands_of_sides swapped (ofSides_swap compared secondReadable)

theorem readable_of_comparands {left right : Value} {both : Comparands}
    (found : comparands left right = .ok both) : ∃ numeric, left.isNumeric = .ok numeric := by
  obtain ⟨first, second, taken, compared⟩ := exists_sides found
  have firstReadable : ∃ numeric, first.isNumeric = .ok numeric := by
    rcases ofSides_cases compared with ⟨tested, _⟩ | ⟨tested, _⟩
    · exact ⟨true, (bothNumeric_eq_ok_true.mp tested).1⟩
    · rcases bothNumeric_eq_ok_false.mp tested with read | ⟨read, _⟩
      · exact ⟨false, read⟩
      · exact ⟨true, read⟩
  rcases blankAsZero_cases taken with ⟨rfl, _⟩ | ⟨rfl, _⟩ | ⟨_, read, _⟩
  · exact firstReadable
  · exact ⟨false, rfl⟩
  · exact ⟨true, read⟩

/-! ## Sides without an order -/

def isUnordered : Value → Bool
  | number value => !value.isOrdered
  | _ => false

/-- Numeric, or taken for zero beside something numeric. -/
def CountsAsNumber (value : Value) : Prop :=
  value = empty ∨ value.isNumeric = .ok true

def Unordered (left right : Value) : Prop :=
  (left.isUnordered = true ∧ right.CountsAsNumber) ∨ (left.CountsAsNumber ∧ right.isUnordered = true)

theorem isNumeric_of_isUnordered {value : Value} (unordered : value.isUnordered = true) :
    value.isNumeric = .ok true ∧ value ≠ empty := by
  cases value with
  | number value => exact ⟨rfl, nofun⟩
  | _ => cases unordered

theorem isNaN_of_toNumber {value : Value} {number : Number} {x : Float} (numeric : value.isNumeric = .ok true)
    (read : value.toNumber = .ok number) (converted : number.toDouble = .ok x) : x.isNaN = value.isUnordered := by
  rw [Number.isNaN_of_toDouble converted]
  cases value with
  | number own =>
    cases read
    rfl
  | text word =>
    obtain ⟨found, prefixed, onward⟩ := bind_eq_ok.mp read
    cases found with
    | some own =>
      cases onward
      rw [Number.isOrdered_of_readPrefix prefixed]
      rfl
    | none =>
      cases onward
      rfl
  | _ => cases numeric

theorem isOrdered_of_toNumber {value : Value} {number : Number} (ordered : value.isUnordered = false)
    (read : value.toNumber = .ok number) : number.isOrdered = true := by
  cases value with
  | number own =>
    cases read
    simpa [isUnordered] using ordered
  | text word =>
    obtain ⟨found, prefixed, onward⟩ := bind_eq_ok.mp read
    cases found with
    | none =>
      cases onward
      rfl
    | some own =>
      cases onward
      exact Number.isOrdered_of_readPrefix prefixed
  | _ =>
    cases read
    rfl

theorem order_eq_none_of_isUnordered {left right : Value} {both : Comparands}
    (found : comparands left right = .ok both) (unordered : left.isUnordered = true)
    (counts : right.CountsAsNumber) : both.order? = none := by
  obtain ⟨leftNumeric, leftSome⟩ := isNumeric_of_isUnordered unordered
  have sides : ∃ second, blankAsZero left right = .ok (left, second) ∧ second.isNumeric = .ok true := by
    by_cases rightEmpty : right = empty
    · refine ⟨integer 0, ?_, rfl⟩
      rw [rightEmpty, blankAsZero_empty_right, leftNumeric]
      rfl
    · exact ⟨right, blankAsZero_of_ne leftSome rightEmpty, counts.resolve_left rightEmpty⟩
  obtain ⟨second, taken, secondNumeric⟩ := sides
  obtain ⟨first, other, own, compared⟩ := exists_sides found
  rw [taken] at own
  cases own
  rcases ofSides_cases compared with ⟨_, number, _, x, y, read, converted, _, _, rfl⟩ | ⟨tested, _⟩
  · have notANumber := isNaN_of_toNumber leftNumeric read converted
    rw [unordered] at notANumber
    exact Double.order_eq_none.mpr (Or.inl notANumber)
  · rw [bothNumeric_eq_ok_true.mpr ⟨leftNumeric, secondNumeric⟩] at tested
    cases tested

theorem order_eq_none_iff {left right : Value} {both : Comparands} (found : comparands left right = .ok both) :
    both.order? = none ↔ Unordered left right := by
  constructor
  · intro none
    obtain ⟨first, second, taken, compared⟩ := exists_sides found
    rcases ofSides_cases compared with ⟨tested, own, other, x, y, read, converted, otherRead, otherConverted, rfl⟩ |
      ⟨_, _, _, _, _, rfl⟩
    · obtain ⟨firstNumeric, secondNumeric⟩ := bothNumeric_eq_ok_true.mp tested
      have either := Double.order_eq_none.mp none
      rw [isNaN_of_toNumber firstNumeric read converted,
        isNaN_of_toNumber secondNumeric otherRead otherConverted] at either
      rcases blankAsZero_cases taken with ⟨rfl, rfl⟩ | ⟨rfl, _, rfl, rfl⟩ | ⟨rfl, _, rfl, rfl⟩
      · exact either.imp (fun unordered => ⟨unordered, Or.inr secondNumeric⟩)
          (fun unordered => ⟨Or.inr firstNumeric, unordered⟩)
      · rcases either with zero | unordered
        · cases zero
        · exact Or.inr ⟨Or.inl rfl, unordered⟩
      · rcases either with unordered | zero
        · exact Or.inl ⟨unordered, Or.inl rfl⟩
        · cases zero
    · cases none
  · rintro (⟨unordered, counts⟩ | ⟨counts, unordered⟩)
    · exact order_eq_none_of_isUnordered found unordered counts
    · have swapped := comparands_swap found (isNumeric_of_isUnordered unordered).1
      have none := order_eq_none_of_isUnordered swapped unordered counts
      rw [Comparands.order_swap, Option.map_eq_none_iff] at none
      exact none

def isScalar (value : Value) : Bool :=
  !value.isError && !Relation.isListValue value

theorem apply_of_isScalar {left right : Value} (leftScalar : left.isScalar = true)
    (rightScalar : right.isScalar = true) (relation : Relation) :
    relation.apply left right = (relation.holds left right).map .bool := by
  simp only [isScalar, Bool.and_eq_true, Bool.not_eq_true'] at leftScalar rightScalar
  unfold Relation.apply
  split
  · cases leftScalar.1
  · cases rightScalar.1
  · rw [leftScalar.2, rightScalar.2]
    cases relation.holds left right <;> rfl

/-- What the relations say of two single values that can be compared. Three of them are the complements of the
other three. The order is the opposite one with the sides exchanged, wherever it is told then, that is unless
the right side is an integer of more digits than can be read. Less, equal and greater exclude each other, and
exactly one of them holds, and the order is that of equals for equal values alone, unless the two have no
order: then none of the three holds, but the order told is that of equals. -/
theorem relations_of_order {left right : Value} (leftScalar : left.isScalar = true)
    (rightScalar : right.isScalar = true) {order : Ordering} (compared : left.compare right = .ok order) :
    ∃ truth : Relation → Bool,
      (∀ relation : Relation, relation.apply left right = .ok (.bool (truth relation))) ∧
      left.equal right = .ok (truth .equal) ∧
      (truth .greaterOrEqual = !truth .less ∧ truth .lessOrEqual = !truth .greater ∧
        truth .notEqual = !truth .equal) ∧
      (∀ swapped, right.compare left = .ok swapped → swapped = order.swap) ∧
      ((∃ swapped, right.compare left = .ok swapped) ↔ ∃ numeric, right.isNumeric = .ok numeric) ∧
      ((truth .less).toNat + (truth .equal).toNat + (truth .greater).toNat = 1 ↔ ¬Unordered left right) ∧
      ((order = .eq ↔ left.equal right = .ok true) ↔ ¬Unordered left right) ∧
      (Unordered left right →
        order = .eq ∧ truth .less = false ∧ truth .equal = false ∧ truth .greater = false) := by
  obtain ⟨both, found, rfl⟩ := exists_comparands compared
  have holds := Relation.holds_of_comparands found
  have equated := equal_of_comparands found
  have mirrored {numeric : Bool} (readable : right.isNumeric = .ok numeric) :
      right.compare left = .ok (both.order?.getD .eq).swap := by
    rw [compare_of_comparands (comparands_swap found readable), Comparands.order_swap]
    rcases both.order? with _ | _ | _ | _ <;> rfl
  have unordered := order_eq_none_iff found
  refine ⟨fun relation => relation.admits both.order?, ?_, equated, ?_, ?_, ?_, ?_, ?_, ?_⟩
  · intro relation
    rw [apply_of_isScalar leftScalar rightScalar, holds]
    rfl
  · rcases both.order? with _ | _ | _ | _ <;> decide
  · intro swapped other
    obtain ⟨_, otherFound, _⟩ := exists_comparands other
    obtain ⟨numeric, readable⟩ := readable_of_comparands otherFound
    exact Except.ok.inj (other.symm.trans (mirrored readable))
  · constructor
    · rintro ⟨swapped, other⟩
      obtain ⟨_, otherFound, _⟩ := exists_comparands other
      exact readable_of_comparands otherFound
    · rintro ⟨numeric, readable⟩
      exact ⟨_, mirrored readable⟩
  · rw [← unordered]
    rcases both.order? with _ | _ | _ | _ <;> decide
  · rw [← unordered, equated]
    rcases both.order? with _ | _ | _ | _ <;> decide
  · rw [← unordered]
    intro none
    rw [none]
    decide

theorem relations_of_order_numeric_text :
    (text "10".toList).compare (integer 9) = .ok .gt ∧ (integer 9).compare (text "10".toList) = .ok .lt ∧
      ¬Unordered (text "10".toList) (integer 9) := by
  have compared : (text "10".toList).compare (integer 9) = .ok .gt := by decide +kernel
  obtain ⟨truth, _, _, _, mirrored, exchanged, _, agree, _⟩ := relations_of_order rfl rfl compared
  obtain ⟨swapped, other⟩ := exchanged.mpr ⟨true, rfl⟩
  refine ⟨compared, ?_, agree.mp (by decide +kernel)⟩
  rw [other, mirrored swapped other]
  rfl

theorem relations_without_order :
    (double Double.notANumber).compare (double Double.notANumber) = .ok .eq ∧
    (double Double.notANumber).equal (double Double.notANumber) = .ok false ∧
    Relation.less.apply (double Double.notANumber) (double Double.notANumber) = .ok (.bool false) ∧
    Relation.equal.apply (double Double.notANumber) (double Double.notANumber) = .ok (.bool false) ∧
    Relation.greater.apply (double Double.notANumber) (double Double.notANumber) = .ok (.bool false) := by
  refine ⟨?_, ?_, ?_, ?_, ?_⟩
  · decide +kernel
  · decide +kernel
  · decide +kernel
  · decide +kernel
  · decide +kernel

end Value

end Worksheet
