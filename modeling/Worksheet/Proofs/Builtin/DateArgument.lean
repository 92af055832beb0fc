import Mathlib.Data.List.Forall2
import Worksheet.Proofs.Calendar.Written

/-! Arguments that are read as dates, one after the other: they are read as long as each one denotes a date, and the
first one that does not decides what comes of all. -/

namespace Worksheet

variable {zone : Zone}

/-- The value is read as a moment of that day in the zone. -/
def Value.Denotes (zone : Zone) (value : Value) (date : Date) : Prop :=
  ∃ moment, value.toMoment zone = .ok (some moment) ∧ moment.date = date

theorem Value.Denotes.unique {value : Value} {date other : Date} (denotes : value.Denotes zone date)
    (alsoDenotes : value.Denotes zone other) : date = other := by
  obtain ⟨moment, read, rfl⟩ := denotes
  obtain ⟨again, readAgain, rfl⟩ := alsoDenotes
  rw [read] at readAgain
  cases readAgain
  rfl

namespace Builtin

theorem denotes_isoText {date : Date} {text : Text} (written : isoText date = text) (late : 1000 ≤ date.year) :
    (Value.text text).Denotes zone date := by
  rw [← written]
  exact ⟨DateTime.ofDate date, by rw [toMoment_isoText, if_pos late], rfl⟩

theorem requireAtLeast_two (name : String) (first second : Value) (rest : List Value) :
    requireAtLeast name (first :: second :: rest) 2 = .ok () := by
  apply requireAtLeast_of_le
  simp only [List.length_cons]
  omega

variable {values : List Value} {dates : List Date}

theorem datesOf_append (values later : List Value) : datesOf zone (values ++ later) = datesOf zone values >>= fun found =>
    match found with
    | none => .ok none
    | some dates => (datesOf zone later).map (Option.map (dates ++ ·)) := by
  induction values with
  | nil =>
    change datesOf zone later = (datesOf zone later).map (Option.map ([] ++ ·))
    cases datesOf zone later with
    | error failure => rfl
    | ok found => cases found <;> rfl
  | cons value rest ih =>
    rw [List.cons_append, datesOf, datesOf, ih]
    cases value.toMoment zone with
    | error failure => rfl
    | ok moment =>
      cases moment with
      | none => rfl
      | some moment =>
        cases datesOf zone rest with
        | error failure => rfl
        | ok found =>
          cases found with
          | none => rfl
          | some dates =>
            cases datesOf zone later with
            | error failure => rfl
            | ok found => cases found <;> rfl

theorem length_of_datesOf (read : datesOf zone values = .ok (some dates)) : dates.length = values.length := by
  induction values generalizing dates with
  | nil =>
    cases read
    rfl
  | cons value rest ih =>
    obtain ⟨moment, _, later⟩ := bind_eq_ok.mp read
    cases moment with
    | none => cases later
    | some moment =>
      obtain ⟨found, readRest, whole⟩ := bind_eq_ok.mp later
      cases found with
      | none => cases whole
      | some days =>
        cases whole
        exact congrArg (· + 1) (ih readRest)

theorem datesOf_of_denotes (denote : List.Forall₂ (Value.Denotes zone) values dates) :
    datesOf zone values = .ok (some dates) := by
  induction denote with
  | nil => rfl
  | cons first _ ih =>
    obtain ⟨moment, read, rfl⟩ := first
    rw [datesOf, read]
    change (datesOf zone _ >>= _) = _
    rw [ih]
    rfl

end Builtin

end Worksheet
