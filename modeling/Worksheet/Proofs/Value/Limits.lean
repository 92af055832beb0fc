import Worksheet.Formula.Expression
import Worksheet.Proofs.Number.Zero
import Worksheet.Proofs.Outcome
import Worksheet.Sheet.Basic

/-! Why computing with values fails. Reading a number or a text fails only on too many digits, arithmetic and
comparison only when an integer is beyond the range of doubles as well: no division here is by zero. -/

namespace Worksheet

variable {α β : Type} {causes : List Failure}

def OnlyFails (causes : List Failure) (result : Except Failure α) : Prop :=
  ∀ failure, result = .error failure → failure ∈ causes

namespace OnlyFails

theorem ok (value : α) : OnlyFails causes (.ok value) :=
  nofun

theorem error {failure : Failure} (member : failure ∈ causes) :
    OnlyFails causes (.error failure : Except Failure α) := by
  rintro _ ⟨⟩
  exact member

theorem mono {others : List Failure} {result : Except Failure α} (only : OnlyFails causes result)
    (among : causes ⊆ others) : OnlyFails others result :=
  fun failure failed => among (only failure failed)

theorem bind {first : Except Failure α} {next : α → Except Failure β} (before : OnlyFails causes first)
    (after : ∀ value, first = .ok value → OnlyFails causes (next value)) : OnlyFails causes (first >>= next) := by
  cases first with
  | error failure =>
    rintro _ ⟨⟩
    exact before failure rfl
  | ok value => exact after value rfl

theorem map {result : Except Failure α} (only : OnlyFails causes result) (onto : α → β) :
    OnlyFails causes (result.map onto) := by
  cases result with
  | error failure =>
    rintro _ ⟨⟩
    exact only failure rfl
  | ok value => exact ok (onto value)

theorem mapM {read : α → Except Failure β} (each : ∀ element, OnlyFails causes (read element))
    (elements : List α) : OnlyFails causes (elements.mapM read) := by
  induction elements with
  | nil => exact .ok []
  | cons element rest ih =>
    rw [List.mapM_cons]
    exact (each element).bind fun _ _ => ih.bind fun _ _ => .ok _

end OnlyFails

namespace Number

theorem toDouble_onlyFails (number : Number) : OnlyFails [.outOfRange] number.toDouble := by
  cases number with
  | double value => exact .ok value
  | integer value =>
    rw [toDouble]
    split
    · exact .ok _
    · exact .error (by simp)

theorem mixed_onlyFails (onIntegers : Int → Int → Int) (onDoubles : Float → Float → Float)
    (left right : Number) : OnlyFails [.outOfRange] (mixed onIntegers onDoubles left right) := by
  unfold mixed
  split
  · exact .ok _
  · refine (toDouble_onlyFails left).bind fun x _ => ?_
    exact (toDouble_onlyFails right).bind fun y _ => .ok _

theorem isNaN_onlyFails (number : Number) : OnlyFails [.outOfRange] number.isNaN := by
  cases number with
  | double value => exact .ok _
  | integer value => exact (toDouble_onlyFails (integer value)).bind fun _ _ => .ok false

theorem div_onlyFails (left : Number) {right : Number} (nonzero : ¬right.isZero = true) :
    OnlyFails [.outOfRange] (left.div right) := by
  unfold div
  split
  next dividend divisor =>
    have divides : divisor ≠ 0 := by
      rintro rfl
      exact nonzero (by decide)
    simp only [if_neg divides]
    split
    · exact .error (by simp)
    split
    · exact .ok _
    · exact .ok _
  next =>
    refine (toDouble_onlyFails left).bind fun x _ => ?_
    refine (toDouble_onlyFails right).bind fun y converted => ?_
    split
    next zero => exact absurd (isZero_of_toDouble converted zero) nonzero
    next => exact .ok _

end Number

theorem Operator.divideNumbers_onlyFails (left right : Number) :
    OnlyFails [.outOfRange] (divideNumbers left right) := by
  unfold divideNumbers
  split
  next =>
    split
    · exact .ok _
    · refine left.isNaN_onlyFails.bind fun _ _ => ?_
      split
      · exact .ok _
      · exact .ok _
  next nonzero => exact left.div_onlyFails nonzero

theorem Operator.apply_onlyFails (left right : Number) (operator : Operator) :
    OnlyFails [.outOfRange] (operator.apply left right) := by
  cases operator with
  | add => exact Number.mixed_onlyFails _ _ left right
  | subtract => exact Number.mixed_onlyFails _ _ left right
  | multiply => exact Number.mixed_onlyFails _ _ left right
  | divide => exact divideNumbers_onlyFails left right

/-! ## Reading and writing -/

namespace Text

theorem readNat_onlyFails (digits : Text) : OnlyFails [.unreadable] (readNat digits) := by
  unfold readNat
  split
  · exact .error (by simp)
  · exact .ok _

theorem writeInt_onlyFails (number : Int) : OnlyFails [.unreadable] (writeInt number) := by
  unfold writeInt
  simp only
  split
  · exact .error (by simp)
  · exact .ok _

end Text

theorem Literal.value_onlyFails (literal : Literal) : OnlyFails [.unreadable] literal.value := by
  unfold value
  split
  · exact (Text.readNat_onlyFails literal.whole).bind fun _ _ => .ok _
  · exact .ok _

namespace Number

theorem readPrefix_onlyFails (text : Text) : OnlyFails [.unreadable] (readPrefix text) := by
  unfold readPrefix
  simp only
  split
  · exact .ok _
  split
  · exact .ok _
  next literal rest _ => exact literal.value_onlyFails.map some

theorem readWhole_onlyFails (text : Text) : OnlyFails [.unreadable] (readWhole text) := by
  unfold readWhole
  split
  next literal _ => exact literal.value_onlyFails.map some
  next => exact .ok _

theorem display_onlyFails (number : Number) : OnlyFails [.unreadable] number.display := by
  cases number with
  | integer value => exact Text.writeInt_onlyFails value
  | double value => exact .ok _

end Number

namespace Value

mutual

theorem toText_onlyFails : (value : Value) → OnlyFails [.unreadable] value.toText
  | empty => .ok _
  | bool _ => .ok _
  | number value => value.display_onlyFails
  | text _ => .ok _
  | error _ => .ok _
  | list values => (toTexts_onlyFails values).bind fun _ _ => .ok _
  | record fields => (fieldTexts_onlyFails fields).bind fun _ _ => .ok _
  | date _ => .ok _
  | moment _ => .ok _

theorem toTexts_onlyFails : (values : List Value) → OnlyFails [.unreadable] (toTexts values)
  | [] => .ok _
  | value :: rest =>
    (toText_onlyFails value).bind fun _ _ => (toTexts_onlyFails rest).bind fun _ _ => .ok _

theorem fieldTexts_onlyFails : (fields : List (Text × Value)) → OnlyFails [.unreadable] (fieldTexts fields)
  | [] => .ok _
  | (_, value) :: rest =>
    (toText_onlyFails value).bind fun _ _ => (fieldTexts_onlyFails rest).bind fun _ _ => .ok _

end

theorem toOperand_onlyFails (value : Value) : OnlyFails [.unreadable] value.toOperand := by
  unfold toOperand
  split
  · exact .ok _
  · exact .ok _
  · exact .ok _
  · simp only
    split
    · exact .ok _
    split
    · exact .ok _
    refine (Number.readWhole_onlyFails _).bind fun found _ => ?_
    cases found with
    | some number => exact .ok _
    | none => exact .ok _
  · exact .ok _

end Value

/-! ## Comparing -/

namespace Value

theorem isNumeric_onlyFails (value : Value) : OnlyFails [.unreadable] value.isNumeric := by
  cases value with
  | text value => exact (Number.readWhole_onlyFails value).bind fun _ _ => .ok _
  | _ => exact .ok _

theorem toNumber_onlyFails (value : Value) : OnlyFails [.unreadable] value.toNumber := by
  cases value with
  | text value =>
    refine (Number.readPrefix_onlyFails value).bind fun found _ => ?_
    cases found with
    | some number => exact .ok _
    | none => exact .ok _
  | _ => exact .ok _

theorem blankAsZero_onlyFails (left right : Value) : OnlyFails [.unreadable] (blankAsZero left right) := by
  unfold blankAsZero
  split
  · refine (isNumeric_onlyFails right).bind fun numeric _ => ?_
    cases numeric with
    | true => exact .ok _
    | false => exact .ok _
  · refine (isNumeric_onlyFails left).bind fun numeric _ => ?_
    cases numeric with
    | true => exact .ok _
    | false => exact .ok _
  · exact .ok _

theorem bothNumeric_onlyFails (left right : Value) : OnlyFails [.unreadable] (bothNumeric left right) := by
  refine (isNumeric_onlyFails left).bind fun numeric _ => ?_
  cases numeric with
  | true => exact isNumeric_onlyFails right
  | false => exact .ok _

theorem comparands_onlyFails (left right : Value) :
    OnlyFails [.outOfRange, .unreadable] (comparands left right) := by
  have double (value : Value) :
      OnlyFails [.outOfRange, .unreadable] (value.toNumber >>= Number.toDouble) :=
    ((toNumber_onlyFails value).mono (by simp)).bind fun number _ => number.toDouble_onlyFails.mono (by simp)
  refine ((blankAsZero_onlyFails left right).mono (by simp)).bind fun sides _ => ?_
  refine ((bothNumeric_onlyFails sides.1 sides.2).mono (by simp)).bind fun numeric _ => ?_
  cases numeric with
  | true =>
    refine ((toNumber_onlyFails sides.1).mono (by simp)).bind fun first _ => ?_
    refine (first.toDouble_onlyFails.mono (by simp)).bind fun _ _ => ?_
    refine ((toNumber_onlyFails sides.2).mono (by simp)).bind fun second _ => ?_
    exact (second.toDouble_onlyFails.mono (by simp)).bind fun _ _ => .ok _
  | false =>
    refine ((toText_onlyFails sides.1).mono (by simp)).bind fun _ _ => ?_
    exact ((toText_onlyFails sides.2).mono (by simp)).bind fun _ _ => .ok _

theorem equal_onlyFails (left right : Value) : OnlyFails [.outOfRange, .unreadable] (equal left right) := by
  refine (comparands_onlyFails left right).bind fun both _ => ?_
  cases both with
  | numbers x y => exact .ok _
  | texts first second => exact .ok _

theorem compare_onlyFails (left right : Value) : OnlyFails [.outOfRange, .unreadable] (compare left right) := by
  refine (comparands_onlyFails left right).bind fun both _ => ?_
  cases both with
  | numbers x y => exact .ok _
  | texts first second => exact .ok _

end Value

/-! ## Cells -/

theorem Address.readCell_onlyFails (text : Text) : OnlyFails [.unreadable] (Address.readCell text) := by
  unfold readCell
  split
  next letters digits _ =>
    refine OnlyFails.map ?_ some
    exact (Text.readNat_onlyFails digits).bind fun _ _ => .ok _
  next => exact .ok _

theorem Position.key_onlyFails (position : Position) : OnlyFails [.unreadable] position.key := by
  refine (Text.writeInt_onlyFails position.row).bind fun _ _ => ?_
  exact (Text.writeInt_onlyFails position.column).bind fun _ _ => .ok _

theorem Sheet.view_onlyFails (sheet : Sheet) (position : Position) :
    OnlyFails [.unreadable] (sheet.view position) :=
  position.key_onlyFails.bind fun _ _ => .ok _

theorem Expression.cellNumber_onlyFails (value : Value) : OnlyFails [.unreadable] (cellNumber value) := by
  unfold cellNumber
  split
  · exact .ok _
  · exact .ok _
  · refine value.toText_onlyFails.bind fun text _ => ?_
    refine (Number.readPrefix_onlyFails text).bind fun found _ => ?_
    cases found with
    | some number => exact .ok _
    | none => exact .ok _

end Worksheet
