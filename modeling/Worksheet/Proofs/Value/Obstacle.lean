import Worksheet.Proofs.Formula.Grammar
import Worksheet.Proofs.Number.Longest
import Worksheet.Proofs.Number.Range
import Worksheet.Proofs.Number.Whole
import Worksheet.Proofs.Text.Digits
import Worksheet.Proofs.Value.Limits

/-! The integers that stand in the way of a computation. An integer of too many digits can neither be read from a text
nor be written to one, and an integer beyond all doubles cannot become one; nothing else about a value makes
arithmetic or a comparison fail. -/

namespace Worksheet

variable {text : Text} {failure : Failure}

namespace Number

theorem beginsTooLong_of_readPrefix (failed : readPrefix text = .error failure) :
    failure = .unreadable ∧ Token.beginsTooLong text = true := by
  refine ⟨List.mem_singleton.mp (readPrefix_onlyFails text failure failed), ?_⟩
  cases long : Token.beginsTooLong text with
  | true => rfl
  | false =>
    obtain ⟨found, read⟩ := Token.readPrefix_eq_ok long
    rw [read] at failed
    cases failed

theorem beginsTooLong_of_readWhole (failed : readWhole text = .error failure) :
    failure = .unreadable ∧ Token.beginsTooLong text = true := by
  rcases readWhole_cases text with ⟨negative, digits, isWhole⟩ | none | ⟨x, read⟩
  · rw [readWhole_of_isWhole isWhole] at failed
    split at failed
    next long =>
      cases failed
      obtain ⟨tail, found⟩ := Literal.exists_read_stripLeft (Literal.read_eq_whole.mpr isWhole)
      exact ⟨rfl, by simp [Token.beginsTooLong, found, long]⟩
    next => cases failed
  · rw [none] at failed
    cases failed
  · rw [read] at failed
    cases failed

end Number

theorem Text.not_short_of_writeInt {number : Int} (failed : writeInt number = .error failure) :
    failure = .unreadable ∧ ¬Short number.natAbs := by
  refine ⟨List.mem_singleton.mp (writeInt_onlyFails number failure failed), fun short => ?_⟩
  have written := writeInt_eq_ok.mpr ⟨short, rfl⟩
  rw [written] at failed
  cases failed

namespace Value

inductive HoldsLong : Value → Prop
  | integer {value : Int} (long : ¬Text.Short value.natAbs) : HoldsLong (.number (.integer value))
  | element {values : List Value} {value : Value} (member : value ∈ values) (inside : HoldsLong value) :
    HoldsLong (.list values)
  | field {fields : List (Text × Value)} {field : Text × Value} (member : field ∈ fields)
    (inside : HoldsLong field.2) : HoldsLong (.record fields)

inductive Obstructs : Value → Failure → Prop
  | read {value : Value} {text : Text} (shown : value.toText = .ok text)
    (long : Token.beginsTooLong text = true) : Obstructs value .unreadable
  | written {value : Value} (long : value.HoldsLong) : Obstructs value .unreadable
  | size {value : Value} {integer : Int}
    (read : value.toNumber = .ok (.integer integer) ∨ value.toOperand = .ok (.integer integer))
    (large : Double.bound ≤ integer.natAbs) : Obstructs value .outOfRange

variable {value left right : Value}

theorem Obstructs.cause (obstructs : value.Obstructs failure) : failure = .outOfRange ∨ failure = .unreadable := by
  cases obstructs with
  | read _ _ => exact Or.inr rfl
  | written _ => exact Or.inr rfl
  | size _ _ => exact Or.inl rfl

theorem not_obstructs_zero : ¬(integer 0).Obstructs failure := by
  intro obstructs
  cases obstructs with
  | read shown long =>
    cases shown
    revert long
    decide
  | written long =>
    cases long with
    | integer long => exact long (by decide)
  | @size number read large =>
    have zero : number = 0 := by
      rcases read with read | read
      · cases read
        rfl
      · cases read
        rfl
    have positive : (0 : ℚ) < Double.bound := lt_of_lt_of_le (by positivity) Double.bound_between.1
    rw [zero] at large
    exact absurd large (Nat.cast_pos.mp positive).not_ge

/-! ## Texts -/

mutual

theorem holdsLong_of_toText : (value : Value) → {failure : Failure} → value.toText = .error failure →
    failure = .unreadable ∧ value.HoldsLong
  | number (.integer value), _, failed => by
    obtain ⟨same, long⟩ := Text.not_short_of_writeInt failed
    exact ⟨same, .integer long⟩
  | list values, _, failed => by
    rcases bind_eq_error.mp failed with inside | ⟨_, _, joined⟩
    · obtain ⟨same, value, member, long⟩ := holdsLong_of_toTexts values inside
      exact ⟨same, .element member long⟩
    · cases joined
  | record fields, _, failed => by
    rcases bind_eq_error.mp failed with inside | ⟨_, _, joined⟩
    · obtain ⟨same, field, member, long⟩ := holdsLong_of_fieldTexts fields inside
      exact ⟨same, .field member long⟩
    · cases joined

theorem holdsLong_of_toTexts : (values : List Value) → {failure : Failure} → toTexts values = .error failure →
    failure = .unreadable ∧ ∃ value ∈ values, value.HoldsLong
  | value :: rest, _, failed => by
    rcases bind_eq_error.mp failed with first | ⟨_, _, later⟩
    · obtain ⟨same, long⟩ := holdsLong_of_toText value first
      exact ⟨same, value, List.mem_cons_self, long⟩
    · rcases bind_eq_error.mp later with inside | ⟨_, _, joined⟩
      · obtain ⟨same, other, member, long⟩ := holdsLong_of_toTexts rest inside
        exact ⟨same, other, List.mem_cons_of_mem _ member, long⟩
      · cases joined

theorem holdsLong_of_fieldTexts : (fields : List (Text × Value)) → {failure : Failure} →
    fieldTexts fields = .error failure → failure = .unreadable ∧ ∃ field ∈ fields, field.2.HoldsLong
  | (name, value) :: rest, _, failed => by
    rcases bind_eq_error.mp failed with first | ⟨_, _, later⟩
    · obtain ⟨same, long⟩ := holdsLong_of_toText value first
      exact ⟨same, (name, value), List.mem_cons_self, long⟩
    · rcases bind_eq_error.mp later with inside | ⟨_, _, joined⟩
      · obtain ⟨same, other, member, long⟩ := holdsLong_of_fieldTexts rest inside
        exact ⟨same, other, List.mem_cons_of_mem _ member, long⟩
      · cases joined

end

theorem obstructs_of_toText (failed : value.toText = .error failure) : value.Obstructs failure := by
  obtain ⟨rfl, long⟩ := holdsLong_of_toText value failed
  exact .written long

theorem obstructs_of_readPrefix (failed : Number.readPrefix text = .error failure) :
    (Value.text text).Obstructs failure := by
  obtain ⟨rfl, long⟩ := Number.beginsTooLong_of_readPrefix failed
  exact .read rfl long

theorem obstructs_of_readWhole (failed : Number.readWhole text = .error failure) :
    (Value.text text).Obstructs failure := by
  obtain ⟨rfl, long⟩ := Number.beginsTooLong_of_readWhole failed
  exact .read rfl long

/-! ## Numbers -/

theorem obstructs_of_toNumber (failed : value.toNumber = .error failure) : value.Obstructs failure := by
  cases value with
  | text value =>
    rcases bind_eq_error.mp failed with unread | ⟨found, _, onward⟩
    · exact obstructs_of_readPrefix unread
    · cases found with
      | none => cases onward
      | some number => cases onward
  | _ => cases failed

theorem obstructs_of_isNumeric (failed : value.isNumeric = .error failure) : value.Obstructs failure := by
  cases value with
  | text value =>
    rcases bind_eq_error.mp failed with unread | ⟨found, _, onward⟩
    · exact obstructs_of_readWhole unread
    · cases onward
  | _ => cases failed

theorem obstructs_of_toOperand (failed : value.toOperand = .error failure) : value.Obstructs failure := by
  cases value with
  | text value =>
    simp only [toOperand] at failed
    split at failed
    · cases failed
    split at failed
    · cases failed
    rcases bind_eq_error.mp failed with unread | ⟨found, _, onward⟩
    · rw [Number.readWhole_strip] at unread
      exact obstructs_of_readWhole unread
    · cases found with
      | none => cases onward
      | some number => cases onward
  | _ => cases failed

theorem obstructs_of_toDouble {number : Number}
    (read : value.toNumber = .ok number ∨ value.toOperand = .ok number) (failed : number.toDouble = .error failure) :
    value.Obstructs failure := by
  cases number with
  | integer integer =>
    obtain ⟨rfl, large⟩ := Number.toDouble_eq_error.mp failed
    exact .size read large
  | double x => cases failed

/-! ## Comparison -/

theorem blankAsZero_sides {sides : Value × Value} (blank : blankAsZero left right = .ok sides) :
    (sides.1 = left ∨ sides.1 = integer 0) ∧ (sides.2 = right ∨ sides.2 = integer 0) := by
  unfold blankAsZero at blank
  split at blank
  · obtain ⟨numeric, _, onward⟩ := bind_eq_ok.mp blank
    cases numeric with
    | true =>
      cases onward
      exact ⟨Or.inr rfl, Or.inl rfl⟩
    | false =>
      cases onward
      exact ⟨Or.inl rfl, Or.inl rfl⟩
  · obtain ⟨numeric, _, onward⟩ := bind_eq_ok.mp blank
    cases numeric with
    | true =>
      cases onward
      exact ⟨Or.inl rfl, Or.inr rfl⟩
    | false =>
      cases onward
      exact ⟨Or.inl rfl, Or.inl rfl⟩
  · cases blank
    exact ⟨Or.inl rfl, Or.inl rfl⟩

theorem obstructs_of_blankAsZero (failed : blankAsZero left right = .error failure) :
    left.Obstructs failure ∨ right.Obstructs failure := by
  unfold blankAsZero at failed
  split at failed
  · rcases bind_eq_error.mp failed with unread | ⟨numeric, _, onward⟩
    · exact Or.inr (obstructs_of_isNumeric unread)
    · cases numeric with
      | true => cases onward
      | false => cases onward
  · rcases bind_eq_error.mp failed with unread | ⟨numeric, _, onward⟩
    · exact Or.inl (obstructs_of_isNumeric unread)
    · cases numeric with
      | true => cases onward
      | false => cases onward
  · cases failed

theorem obstructs_of_bothNumeric (failed : bothNumeric left right = .error failure) :
    left.Obstructs failure ∨ right.Obstructs failure := by
  rcases bind_eq_error.mp failed with unread | ⟨numeric, _, onward⟩
  · exact Or.inl (obstructs_of_isNumeric unread)
  · cases numeric with
    | true => exact Or.inr (obstructs_of_isNumeric onward)
    | false => cases onward

theorem obstructs_of_comparands (failed : comparands left right = .error failure) :
    left.Obstructs failure ∨ right.Obstructs failure := by
  rcases bind_eq_error.mp failed with unread | ⟨sides, blank, failed⟩
  · exact obstructs_of_blankAsZero unread
  obtain ⟨first, second⟩ := blankAsZero_sides blank
  -- the zero in the place of an empty side stands in no way
  suffices either : sides.1.Obstructs failure ∨ sides.2.Obstructs failure by
    rcases either with obstructs | obstructs
    · rcases first with same | zero
      · exact Or.inl (same ▸ obstructs)
      · exact absurd (zero ▸ obstructs) not_obstructs_zero
    · rcases second with same | zero
      · exact Or.inr (same ▸ obstructs)
      · exact absurd (zero ▸ obstructs) not_obstructs_zero
  rcases bind_eq_error.mp failed with unread | ⟨numeric, _, failed⟩
  · exact obstructs_of_bothNumeric unread
  cases numeric with
  | true =>
    rcases bind_eq_error.mp failed with unread | ⟨x, leftRead, failed⟩
    · exact Or.inl (obstructs_of_toNumber unread)
    rcases bind_eq_error.mp failed with large | ⟨_, _, failed⟩
    · exact Or.inl (obstructs_of_toDouble (Or.inl leftRead) large)
    rcases bind_eq_error.mp failed with unread | ⟨y, rightRead, failed⟩
    · exact Or.inr (obstructs_of_toNumber unread)
    rcases bind_eq_error.mp failed with large | ⟨_, _, failed⟩
    · exact Or.inr (obstructs_of_toDouble (Or.inl rightRead) large)
    cases failed
  | false =>
    rcases bind_eq_error.mp failed with long | ⟨_, _, failed⟩
    · exact Or.inl (obstructs_of_toText long)
    rcases bind_eq_error.mp failed with long | ⟨_, _, failed⟩
    · exact Or.inr (obstructs_of_toText long)
    cases failed

theorem obstructs_of_equal (failed : equal left right = .error failure) :
    left.Obstructs failure ∨ right.Obstructs failure := by
  rcases bind_eq_error.mp failed with unread | ⟨both, _, onward⟩
  · exact obstructs_of_comparands unread
  · cases both with
    | numbers x y => cases onward
    | texts first second => cases onward

theorem obstructs_of_compare (failed : compare left right = .error failure) :
    left.Obstructs failure ∨ right.Obstructs failure := by
  rcases bind_eq_error.mp failed with unread | ⟨both, _, onward⟩
  · exact obstructs_of_comparands unread
  · cases both with
    | numbers x y => cases onward
    | texts first second => cases onward

end Value

/-! ## Arithmetic -/

namespace Operator

variable {left right : Value} {first second : Number}

theorem obstructs_of_mixed {onIntegers : Int → Int → Int} {onDoubles : Float → Float → Float}
    (leftRead : left.toOperand = .ok first) (rightRead : right.toOperand = .ok second)
    (failed : Number.mixed onIntegers onDoubles first second = .error failure) :
    left.Obstructs failure ∨ right.Obstructs failure := by
  unfold Number.mixed at failed
  split at failed
  · cases failed
  · rcases bind_eq_error.mp failed with large | ⟨_, _, failed⟩
    · exact Or.inl (Value.obstructs_of_toDouble (Or.inr leftRead) large)
    rcases bind_eq_error.mp failed with large | ⟨_, _, failed⟩
    · exact Or.inr (Value.obstructs_of_toDouble (Or.inr rightRead) large)
    cases failed

/-- A quotient of integers is beyond the doubles only if its dividend is. -/
theorem large_of_quotient {dividend divisor : ℤ} (divides : divisor ≠ 0)
    (infinite : (Double.nearestInt (dividend * divisor.sign) divisor.natAbs).isInf = true) :
    Double.bound ≤ dividend.natAbs := by
  have scale : 0 < divisor.natAbs := Int.natAbs_pos.mpr divides
  have unsigned : (dividend * divisor.sign).natAbs = dividend.natAbs := by
    rw [Int.natAbs_mul, Int.natAbs_sign_of_ne_zero divides, mul_one]
  rw [Double.isInf_nearestInt _ scale, unsigned] at infinite
  have shrunk : (dividend.natAbs : ℚ) / divisor.natAbs ≤ dividend.natAbs :=
    div_le_self (Nat.cast_nonneg _) (by exact_mod_cast scale)
  exact Nat.cast_le.mp (infinite.trans shrunk)

theorem obstructs_of_div (leftRead : left.toOperand = .ok first) (rightRead : right.toOperand = .ok second)
    (nonzero : ¬second.isZero = true) (failed : first.div second = .error failure) :
    left.Obstructs failure ∨ right.Obstructs failure := by
  unfold Number.div at failed
  split at failed
  next dividend divisor =>
    have divides : divisor ≠ 0 := by
      rintro rfl
      exact nonzero (by decide)
    simp only [if_neg divides] at failed
    split at failed
    next infinite =>
      cases failed
      exact Or.inl (.size (Or.inr leftRead) (large_of_quotient divides infinite))
    split at failed
    · cases failed
    · cases failed
  next =>
    rcases bind_eq_error.mp failed with large | ⟨_, _, failed⟩
    · exact Or.inl (Value.obstructs_of_toDouble (Or.inr leftRead) large)
    rcases bind_eq_error.mp failed with large | ⟨_, converted, failed⟩
    · exact Or.inr (Value.obstructs_of_toDouble (Or.inr rightRead) large)
    split at failed
    next zero => exact absurd (Number.isZero_of_toDouble converted zero) nonzero
    next => cases failed

theorem obstructs_of_divideNumbers (leftRead : left.toOperand = .ok first) (rightRead : right.toOperand = .ok second)
    (failed : divideNumbers first second = .error failure) :
    left.Obstructs failure ∨ right.Obstructs failure := by
  unfold divideNumbers at failed
  split at failed
  next =>
    split at failed
    · cases failed
    rcases bind_eq_error.mp failed with large | ⟨noNumber, _, onward⟩
    · cases first with
      | integer integer =>
        rcases bind_eq_error.mp large with beyond | ⟨_, _, onward⟩
        · exact Or.inl (Value.obstructs_of_toDouble (Or.inr leftRead) beyond)
        · cases onward
      | double x => cases large
    · cases noNumber with
      | true => cases onward
      | false => cases onward
  next nonzero => exact obstructs_of_div leftRead rightRead nonzero failed

theorem obstructs_of_apply {operator : Operator} (leftRead : left.toOperand = .ok first)
    (rightRead : right.toOperand = .ok second) (failed : operator.apply first second = .error failure) :
    left.Obstructs failure ∨ right.Obstructs failure := by
  cases operator with
  | add => exact obstructs_of_mixed leftRead rightRead failed
  | subtract => exact obstructs_of_mixed leftRead rightRead failed
  | multiply => exact obstructs_of_mixed leftRead rightRead failed
  | divide => exact obstructs_of_divideNumbers leftRead rightRead failed

end Operator

end Worksheet
