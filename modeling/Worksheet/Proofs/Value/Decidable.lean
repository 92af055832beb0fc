import Worksheet.Sheet.Basic

/-! Equality of values can be decided: the same kind and the same value in it, down to the sign of zero. -/

namespace Worksheet

namespace Value

mutual

/-- One and the same value, where `same` also takes equal values of other kinds. -/
def isSame : Value → Value → Bool
  | empty, empty => true
  | bool left, bool right => decide (left = right)
  | number left, number right => decide (left = right)
  | text left, text right => decide (left = right)
  | error left, error right => decide (left = right)
  | list left, list right => areSame left right
  | record left, record right => areSameFields left right
  | date left, date right => decide (left = right)
  | moment left, moment right => decide (left = right)
  | _, _ => false

def areSame : List Value → List Value → Bool
  | [], [] => true
  | left :: lefts, right :: rights => isSame left right && areSame lefts rights
  | _, _ => false

def areSameFields : List (Text × Value) → List (Text × Value) → Bool
  | [], [] => true
  | (leftName, left) :: lefts, (rightName, right) :: rights =>
    decide (leftName = rightName) && isSame left right && areSameFields lefts rights
  | _, _ => false

end

mutual

theorem isSame_iff (left right : Value) : isSame left right = true ↔ left = right := by
  cases left with
  | list lefts =>
    cases right with
    | list rights => simp [isSame, areSame_iff lefts rights]
    | _ => simp [isSame]
  | record lefts =>
    cases right with
    | record rights => simp [isSame, areSameFields_iff lefts rights]
    | _ => simp [isSame]
  | _ => cases right <;> simp [isSame]

theorem areSame_iff (lefts rights : List Value) : areSame lefts rights = true ↔ lefts = rights := by
  cases lefts with
  | nil => cases rights <;> simp [areSame]
  | cons left lefts =>
    cases rights with
    | nil => simp [areSame]
    | cons right rights => simp [areSame, isSame_iff left right, areSame_iff lefts rights]

theorem areSameFields_iff (lefts rights : List (Text × Value)) :
    areSameFields lefts rights = true ↔ lefts = rights := by
  cases lefts with
  | nil => cases rights <;> simp [areSameFields]
  | cons left lefts =>
    obtain ⟨leftName, left⟩ := left
    cases rights with
    | nil => simp [areSameFields]
    | cons right rights =>
      obtain ⟨rightName, right⟩ := right
      simp [areSameFields, isSame_iff left right, areSameFields_iff lefts rights]

end

instance : DecidableEq Value :=
  fun left right => decidable_of_iff _ (isSame_iff left right)

end Value

deriving instance DecidableEq for Cell, Entry, Answer

end Worksheet
