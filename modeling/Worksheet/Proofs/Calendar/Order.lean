import Worksheet.Proofs.Calendar.Day

/-! The order of dates by year, month and day. Day numbers are in the same order; in one month they are as far apart
as the days are, and from one month to the next the length of the month comes in. -/

namespace Worksheet

open Calendar
open Builtin (monthCount)

namespace Date

instance : LE Date where
  le date other :=
    date.year < other.year ∨
      date.year = other.year ∧ (date.month < other.month ∨ date.month = other.month ∧ date.day ≤ other.day)

instance (date other : Date) : Decidable (date ≤ other) :=
  inferInstanceAs (Decidable (_ ∨ _))

theorem le_iff {date other : Date} : date ≤ other ↔ date.year < other.year ∨
    date.year = other.year ∧ (date.month < other.month ∨ date.month = other.month ∧ date.day ≤ other.day) :=
  Iff.rfl

theorem monthCount_inj {date other : Date} (same : monthCount date = monthCount other) :
    date.year = other.year ∧ date.month = other.month := by
  have own := month_bounds date.isDate
  have others := month_bounds other.isDate
  rw [monthCount, monthCount] at same
  omega

theorem le_iff_monthCount {date other : Date} : date ≤ other ↔ monthCount date < monthCount other ∨
    monthCount date = monthCount other ∧ date.day ≤ other.day := by
  have own := month_bounds date.isDate
  have others := month_bounds other.isDate
  rw [le_iff, monthCount, monthCount]
  omega

theorem daysBeforeMonth_mono {year first month : Nat} (positive : 1 ≤ first) (before : first ≤ month) :
    daysBeforeMonth year first ≤ daysBeforeMonth year month := by
  induction before with
  | refl => exact Nat.le_refl _
  | step before ih =>
    rw [daysBeforeMonth_next year (Nat.le_trans positive before)]
    exact Nat.le_trans ih (Nat.le_add_right _ _)

theorem number_lt_of_year_lt {date other : Date} (before : date.year < other.year) : date.number < other.number := by
  have last := (number_bounds date).2
  have first := (number_bounds other).1
  have years : daysBeforeYear (date.year + 1) ≤ daysBeforeYear other.year := daysBeforeYear_mono before
  omega

theorem number_lt_of_month_lt {date other : Date} (year : date.year = other.year) (before : date.month < other.month) :
    date.number < other.number := by
  obtain ⟨first, _⟩ := month_bounds date.isDate
  have months : daysBeforeMonth date.year (date.month + 1) ≤ daysBeforeMonth date.year other.month :=
    daysBeforeMonth_mono (by omega) before
  have within := date.isDate.day_le
  have positive := other.isDate.day_pos
  rw [daysBeforeMonth_next date.year first] at months
  rw [number, number, ← year]
  omega

theorem number_of_same_month {date other : Date} (same : monthCount date = monthCount other) :
    (other.number : Int) - date.number = (other.day : Int) - date.day := by
  obtain ⟨year, month⟩ := monthCount_inj same
  rw [number, number, year, month]
  omega

theorem le_iff_number {date other : Date} : date ≤ other ↔ date.number ≤ other.number := by
  rw [le_iff]
  rcases Nat.lt_trichotomy date.year other.year with before | year | after
  · have numbers := number_lt_of_year_lt before
    omega
  · rcases Nat.lt_trichotomy date.month other.month with before | month | after
    · have numbers := number_lt_of_month_lt year before
      omega
    · have same : monthCount date = monthCount other := by rw [monthCount, monthCount, year, month]
      have numbers := number_of_same_month same
      omega
    · have numbers := number_lt_of_month_lt year.symm after
      omega
  · have numbers := number_lt_of_year_lt after
    omega

theorem firstOfYear_le (date : Date) : date.firstOfYear ≤ date := by
  obtain ⟨month, _⟩ := month_bounds date.isDate
  have day := date.isDate.day_pos
  refine Or.inr ⟨rfl, ?_⟩
  change 1 < date.month ∨ 1 = date.month ∧ 1 ≤ date.day
  omega

theorem number_of_next_month {date other : Date} (next : monthCount other = monthCount date + 1) :
    (other.number : Int) - date.number = (daysInMonth date.year date.month : Int) - date.day + other.day := by
  obtain ⟨first, last⟩ := month_bounds date.isDate
  have others := month_bounds other.isDate
  have onward := daysBeforeMonth_next date.year first
  rw [monthCount, monthCount] at next
  by_cases december : date.month = 12
  · have year : other.year = date.year + 1 := by omega
    have month : other.month = 1 := by omega
    have whole := daysBeforeMonth_after_december date.year
    have nextYear := daysBeforeYear_next date.isDate.year_pos
    have january : daysBeforeMonth (date.year + 1) 1 = 0 := rfl
    rw [december] at onward ⊢
    rw [number, number, year, month, december]
    omega
  · have year : other.year = date.year := by omega
    have month : other.month = date.month + 1 := by omega
    rw [number, number, year, month]
    omega

end Date

end Worksheet
