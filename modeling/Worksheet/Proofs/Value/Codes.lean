import Worksheet.Builtin.Basic

/-! The error codes inside a value. Opening the lists of values brings none in. -/

namespace Worksheet

def ErrorCode.isOrdinary : ErrorCode → Bool
  | reference => true
  | value => true
  | notAvailable => true
  | name => false
  | failure => false

namespace Value

mutual

def codes : Value → List ErrorCode
  | error code => [code]
  | list values => codesOf values
  | _ => []

def codesOf : List Value → List ErrorCode
  | [] => []
  | value :: rest => value.codes ++ codesOf rest

end

def Within (permitted : ErrorCode → Prop) (value : Value) : Prop :=
  ∀ code ∈ value.codes, permitted code

def AllWithin (permitted : ErrorCode → Prop) (values : List Value) : Prop :=
  ∀ value ∈ values, value.Within permitted

variable {permitted : ErrorCode → Prop}

theorem Within.bare {value : Value} (none : value.codes = []) : value.Within permitted := by
  intro code member
  rw [none] at member
  cases member

theorem within_error {code : ErrorCode} : (error code).Within permitted ↔ permitted code := by
  simp [Within, codes]

theorem mem_codesOf {values : List Value} {code : ErrorCode} :
    code ∈ codesOf values ↔ ∃ value ∈ values, code ∈ value.codes := by
  induction values with
  | nil => simp [codesOf]
  | cons value rest ih => simp [codesOf, ih]

theorem within_list {values : List Value} : (list values).Within permitted ↔ AllWithin permitted values := by
  constructor
  · intro within value member code inside
    exact within code (mem_codesOf.mpr ⟨value, member, inside⟩)
  · intro within code inside
    obtain ⟨value, member, found⟩ := mem_codesOf.mp inside
    exact within value member code found

theorem Within.mono {other : ErrorCode → Prop} {value : Value} (within : value.Within permitted)
    (weaker : ∀ code, permitted code → other code) : value.Within other :=
  fun code inside => weaker code (within code inside)

theorem AllWithin.nil : AllWithin permitted [] :=
  nofun

theorem AllWithin.cons {value : Value} {rest : List Value} (first : value.Within permitted)
    (later : AllWithin permitted rest) : AllWithin permitted (value :: rest) := by
  intro other member
  rcases List.mem_cons.mp member with rfl | inside
  · exact first
  · exact later other inside

theorem AllWithin.mono {other : ErrorCode → Prop} {values : List Value} (within : AllWithin permitted values)
    (weaker : ∀ code, permitted code → other code) : AllWithin other values :=
  fun value member => (within value member).mono weaker

theorem AllWithin.subset {values others : List Value} (within : AllWithin permitted values)
    (among : others ⊆ values) : AllWithin permitted others :=
  fun value member => within value (among member)

theorem AllWithin.getD {values : List Value} (within : AllWithin permitted values) {default : Value}
    (otherwise : default.Within permitted) (index : Nat) : (values.getD index default).Within permitted := by
  rw [List.getD_eq_getElem?_getD]
  cases found : values[index]? with
  | none => exact otherwise
  | some value => exact within value (List.mem_of_getElem? found)

theorem AllWithin.argument {values : List Value} (within : AllWithin permitted values) (index : Nat) :
    (Builtin.argument values index).Within permitted :=
  within.getD (.bare rfl) index

mutual

theorem Within.leaves : {value : Value} → value.Within permitted → AllWithin permitted value.leaves
  | list _, within => AllWithin.flatten (within_list.mp within)
  | empty, within => .cons within .nil
  | bool _, within => .cons within .nil
  | number _, within => .cons within .nil
  | text _, within => .cons within .nil
  | error _, within => .cons within .nil
  | record _, within => .cons within .nil
  | date _, within => .cons within .nil
  | moment _, within => .cons within .nil

theorem AllWithin.flatten : {values : List Value} → AllWithin permitted values →
    AllWithin permitted (flatten values)
  | [], _ => .nil
  | value :: rest, within => by
    have first := Within.leaves (within value List.mem_cons_self)
    have later := AllWithin.flatten fun other member => within other (List.mem_cons_of_mem value member)
    intro leaf member
    rcases List.mem_append.mp member with before | after
    · exact first leaf before
    · exact later leaf after

end

theorem Within.entries {value : Value} (within : value.Within permitted) :
    AllWithin permitted value.entries := by
  cases value with
  | list values => exact AllWithin.flatten (within_list.mp within)
  | _ => exact .cons within .nil

theorem mem_of_firstError {values : List Value} {code : ErrorCode} (found : firstError values = some code) :
    error code ∈ values := by
  induction values with
  | nil => cases found
  | cons value rest ih =>
    cases value with
    | error first =>
      cases found
      exact List.mem_cons_self
    | _ => exact List.mem_cons_of_mem _ (ih found)

theorem AllWithin.firstError {values : List Value} (within : AllWithin permitted values) {code : ErrorCode}
    (found : Value.firstError values = some code) : permitted code :=
  within_error.mp (within _ (mem_of_firstError found))

end Value

variable {permitted : ErrorCode → Prop}

def Returns (permitted : ErrorCode → Prop) (result : Except Failure Value) : Prop :=
  ∀ value, result = .ok value → value.Within permitted

namespace Returns

theorem ok {value : Value} (within : value.Within permitted) : Returns permitted (.ok value) := by
  rintro _ ⟨⟩
  exact within

theorem bare {value : Value} (none : value.codes = []) : Returns permitted (.ok value) :=
  ok (.bare none)

theorem error (failure : Failure) : Returns permitted (.error failure) :=
  nofun

theorem bind {α : Type} {first : Except Failure α} {next : α → Except Failure Value}
    (later : ∀ value, Returns permitted (next value)) : Returns permitted (first >>= next) := by
  cases first with
  | error failure => exact error failure
  | ok value => exact later value

theorem ite {condition : Prop} [Decidable condition] {yes no : Except Failure Value}
    (holds : Returns permitted yes) (fails : Returns permitted no) :
    Returns permitted (if condition then yes else no) := by
  split
  · exact holds
  · exact fails

theorem code (ordinary : ∀ code : ErrorCode, code.isOrdinary = true → permitted code) {code : ErrorCode}
    (among : code.isOrdinary = true) : Returns permitted (.ok (.error code)) :=
  ok (Value.within_error.mpr (ordinary code among))

end Returns

end Worksheet
