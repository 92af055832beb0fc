import Mathlib.Algebra.Order.Ring.Nat
import Mathlib.Data.List.Basic
import Worksheet.Builtin.Calendar

/-! Day numbers. A day number lies in exactly one year and, in it, in exactly one month, so it is the number of
exactly one date; and it grows by one from each date to the next, so that it counts days. -/

namespace Worksheet

namespace Calendar

/-! ## Years -/

def yearLength (year : Nat) : Nat :=
  if isLeap year then 366 else 365

theorem isLeap_iff (year : Nat) :
    isLeap year = true ↔ year % 4 = 0 ∧ (year % 100 ≠ 0 ∨ year % 400 = 0) := by
  simp [isLeap]

theorem daysBeforeYear_succ (before : Nat) :
    daysBeforeYear (before + 2) = daysBeforeYear (before + 1) + yearLength (before + 1) := by
  have rule := isLeap_iff (before + 1)
  have fewer : before / 100 ≤ before / 4 := Nat.div_le_div_left (by decide) (by decide)
  have quarter := Nat.succ_div (a := before) (b := 4)
  have century := Nat.succ_div (a := before) (b := 100)
  have fourth := Nat.succ_div (a := before) (b := 400)
  simp only [Nat.dvd_iff_mod_eq_zero] at quarter century fourth
  change 365 * (before + 1) + (before + 1) / 4 - (before + 1) / 100 + (before + 1) / 400 =
    365 * before + before / 4 - before / 100 + before / 400 + yearLength (before + 1)
  rw [quarter, century, fourth, yearLength]
  generalize before / 4 = quarters at fewer
  generalize before / 100 = centuries at fewer
  by_cases by4 : (before + 1) % 4 = 0
  · by_cases by100 : (before + 1) % 100 = 0
    · by_cases by400 : (before + 1) % 400 = 0
      · rw [if_pos by4, if_pos by100, if_pos by400, if_pos (rule.mpr ⟨by4, Or.inr by400⟩)]
        omega
      · rw [if_pos by4, if_pos by100, if_neg by400, if_neg (by simp [rule, by100, by400])]
        omega
    · rw [if_pos by4, if_neg by100, if_neg (by omega), if_pos (rule.mpr ⟨by4, Or.inl by100⟩)]
      omega
  · rw [if_neg by4, if_neg (by omega), if_neg (by omega), if_neg (by simp [rule, by4])]
    omega

theorem daysBeforeYear_next {year : Nat} (first : 1 ≤ year) :
    daysBeforeYear (year + 1) = daysBeforeYear year + yearLength year := by
  obtain ⟨before, rfl⟩ : ∃ before, year = before + 1 := ⟨year - 1, by omega⟩
  exact daysBeforeYear_succ before

theorem daysBeforeYear_groups (before : Nat) :
    daysBeforeYear (before + 1) = 146097 * (before / 4 / 25 / 4) + 36524 * (before / 4 / 25 % 4) +
      1461 * (before / 4 % 25) + 365 * (before % 4) := by
  have centuries : before / 100 = before / 4 / 25 := by rw [Nat.div_div_eq_div_mul]
  have fourths : before / 400 = before / 4 / 25 / 4 := by rw [Nat.div_div_eq_div_mul, Nat.div_div_eq_div_mul]
  rw [daysBeforeYear, Nat.add_sub_cancel, centuries, fourths]
  omega

/-- By the mean length of a year no day number is off by more than two. -/
theorem daysBeforeYear_estimate (before : Nat) :
    400 * daysBeforeYear (before + 1) ≤ 146097 * before + 288 ∧
      146097 * before ≤ 400 * daysBeforeYear (before + 1) + 591 := by
  rw [daysBeforeYear_groups]
  omega

theorem daysBeforeYear_mono {year other : Nat} (before : year ≤ other) :
    daysBeforeYear year ≤ daysBeforeYear other := by
  induction before with
  | refl => exact Nat.le_refl _
  | @step later _ ih =>
    refine Nat.le_trans ih ?_
    cases later with
    | zero => decide
    | succ later =>
      rw [daysBeforeYear_succ]
      exact Nat.le_add_right _ _

theorem yearOfNumber_bounds {number : Nat} (positive : 1 ≤ number) :
    1 ≤ Date.yearOfNumber number ∧ daysBeforeYear (Date.yearOfNumber number) < number ∧
      number ≤ daysBeforeYear (Date.yearOfNumber number + 1) := by
  obtain ⟨guess, guessed⟩ : ∃ guess, (number - 1) * 400 / 146097 = guess := ⟨_, rfl⟩
  have low : 146097 * guess ≤ (number - 1) * 400 := by omega
  have high : (number - 1) * 400 < 146097 * (guess + 1) := by omega
  have above : 146097 * (guess + 2) ≤ 400 * daysBeforeYear (guess + 3) + 591 := (daysBeforeYear_estimate (guess + 2)).2
  simp only [Date.yearOfNumber, guessed, Nat.add_sub_cancel]
  split
  next early =>
    cases guess with
    | zero =>
      have none : daysBeforeYear (0 + 1) = 0 := by decide
      omega
    | succ guess =>
      have below := (daysBeforeYear_estimate guess).1
      exact ⟨by omega, by omega, early⟩
  next late =>
    split
    next later =>
      change _ ∧ _ ∧ number ≤ daysBeforeYear (guess + 3)
      exact ⟨by omega, later, by omega⟩
    next within => exact ⟨by omega, by omega, by omega⟩

theorem yearOfNumber_eq {number year : Nat} (after : daysBeforeYear year < number)
    (within : number ≤ daysBeforeYear (year + 1)) : Date.yearOfNumber number = year := by
  obtain ⟨_, least, most⟩ := yearOfNumber_bounds (show 1 ≤ number by omega)
  rcases Nat.lt_trichotomy (Date.yearOfNumber number) year with early | same | late
  · have between : daysBeforeYear (Date.yearOfNumber number + 1) ≤ daysBeforeYear year := daysBeforeYear_mono early
    omega
  · exact same
  · have between : daysBeforeYear (year + 1) ≤ daysBeforeYear (Date.yearOfNumber number) := daysBeforeYear_mono late
    omega

/-! ## Months -/

@[simp] theorem length_monthLengths (leap : Bool) : (monthLengths leap).length = 12 := rfl

theorem sum_monthLengths (year : Nat) : (monthLengths (isLeap year)).sum = yearLength year := by
  cases leap : isLeap year <;> simp [monthLengths, yearLength, leap]

theorem daysInMonth_succ (year month : Nat) :
    daysInMonth year (month + 1) = (monthLengths (isLeap year)).getD month 0 :=
  rfl

theorem daysBeforeMonth_succ (year month : Nat) :
    daysBeforeMonth year (month + 1) = ((monthLengths (isLeap year)).take month).sum := by
  rw [daysBeforeMonth, Nat.add_sub_cancel, List.sum_eq_foldl]

theorem daysBeforeMonth_after_december (year : Nat) : daysBeforeMonth year (12 + 1) = yearLength year := by
  rw [daysBeforeMonth_succ, ← sum_monthLengths]
  rfl

theorem month_bounds {year month day : Nat} (isDate : IsDate year month day) : 1 ≤ month ∧ month ≤ 12 := by
  have some := Nat.le_trans isDate.day_pos isDate.day_le
  cases month with
  | zero => exact absurd some (by simp [daysInMonth])
  | succ month =>
    refine ⟨by omega, Nat.le_of_not_lt fun beyond => ?_⟩
    rw [daysInMonth_succ, List.getD, List.getElem?_eq_none (by rw [length_monthLengths]; omega)] at some
    cases some

theorem daysInMonth_bounds (year month : Nat) (first : 1 ≤ month) (last : month ≤ 12) :
    28 ≤ daysInMonth year month ∧ daysInMonth year month ≤ 31 := by
  obtain ⟨before, rfl⟩ : ∃ before, month = before + 1 := ⟨month - 1, by omega⟩
  have table : ∀ leap : Bool, ∀ index < 12,
      28 ≤ (monthLengths leap).getD index 0 ∧ (monthLengths leap).getD index 0 ≤ 31 := by decide
  exact table _ before (by omega)

theorem splitDay_sum_add {lengths : List Nat} {place day : Nat} (month : Nat) (positive : 1 ≤ day)
    (within : day ≤ lengths.getD place 0) :
    Date.splitDay lengths month ((lengths.take place).sum + day) = (month + place, day) := by
  induction lengths generalizing month place with
  | nil =>
    rw [List.getD_nil] at within
    omega
  | cons length rest ih =>
    cases place with
    | zero =>
      rw [List.getD_cons_zero] at within
      simp [Date.splitDay, within]
    | succ place =>
      have later := ih (month + 1) within
      have passed : ¬length + (rest.take place).sum + day ≤ length := by omega
      have left : length + (rest.take place).sum + day - length = (rest.take place).sum + day := by omega
      rw [List.take_succ_cons, List.sum_cons, Date.splitDay, if_neg passed, left, later, Nat.add_right_comm,
        Nat.add_assoc]

theorem exists_place {lengths : List Nat} {day : Nat} (positive : 1 ≤ day) (within : day ≤ lengths.sum) :
    ∃ place rest, place < lengths.length ∧ 1 ≤ rest ∧ rest ≤ lengths.getD place 0 ∧
      day = (lengths.take place).sum + rest := by
  induction lengths generalizing day with
  | nil =>
    rw [List.sum_nil] at within
    omega
  | cons length lengths ih =>
    rw [List.sum_cons] at within
    by_cases first : day ≤ length
    · exact ⟨0, day, by simp, positive, by simpa using first, by simp⟩
    · obtain ⟨place, rest, inside, some, most, split⟩ := ih (show 1 ≤ day - length by omega) (by omega)
      refine ⟨place + 1, rest, by simpa using inside, some, by simpa using most, ?_⟩
      rw [List.take_succ_cons, List.sum_cons]
      omega

theorem sum_take_succ (lengths : List Nat) (place : Nat) :
    (lengths.take (place + 1)).sum = (lengths.take place).sum + lengths.getD place 0 := by
  induction lengths generalizing place with
  | nil => simp
  | cons length rest ih =>
    cases place with
    | zero => simp
    | succ place =>
      rw [List.take_succ_cons, List.sum_cons, ih, List.take_succ_cons, List.sum_cons, List.getD_cons_succ,
        Nat.add_assoc]

theorem sum_take_add_le (lengths : List Nat) (place : Nat) :
    (lengths.take place).sum + lengths.getD place 0 ≤ lengths.sum := by
  have whole := congrArg List.sum (List.take_append_drop (place + 1) lengths)
  rw [List.sum_append, sum_take_succ] at whole
  omega

end Calendar

open Calendar
open Builtin (lastDay)

namespace Date

/-! ## Numbers and dates -/

theorem ofParts?_eq_some {year month day : Int} {date : Date} :
    ofParts? year month day = some date ↔ date.year = year ∧ date.month = month ∧ date.day = day := by
  constructor
  · intro found
    unfold ofParts? at found
    split at found
    · split at found
      · cases found
        refine ⟨?_, ?_, ?_⟩ <;> simp <;> omega
      · cases found
    · cases found
  · rintro ⟨rfl, rfl, rfl⟩
    simp [ofParts?, date.isDate]

theorem number_eq (date : Date) : ∃ before, date.month = before + 1 ∧
    date.number = daysBeforeYear date.year + ((monthLengths (isLeap date.year)).take before).sum + date.day ∧
      date.day ≤ (monthLengths (isLeap date.year)).getD before 0 := by
  obtain ⟨first, _⟩ := month_bounds date.isDate
  obtain ⟨before, same⟩ : ∃ before, date.month = before + 1 := ⟨date.month - 1, by omega⟩
  have most := date.isDate.day_le
  refine ⟨before, same, ?_, ?_⟩
  · rw [number, same, daysBeforeMonth_succ]
  · rwa [same, daysInMonth_succ] at most

theorem number_bounds (date : Date) :
    daysBeforeYear date.year < date.number ∧ date.number ≤ daysBeforeYear (date.year + 1) := by
  obtain ⟨before, _, number, most⟩ := number_eq date
  have whole := sum_take_add_le (monthLengths (isLeap date.year)) before
  have next := daysBeforeYear_next date.isDate.year_pos
  have some := date.isDate.day_pos
  rw [sum_monthLengths] at whole
  omega

theorem number_pos (date : Date) : 1 ≤ date.number :=
  Nat.lt_of_le_of_lt (Nat.zero_le _) (number_bounds date).1

theorem number_le (date : Date) : date.number ≤ lastDay :=
  Nat.le_trans (number_bounds date).2 (daysBeforeYear_mono (Nat.succ_le_succ date.isDate.year_le))

theorem ofNumber?_number (date : Date) : ofNumber? date.number = some date := by
  obtain ⟨before, month, number, most⟩ := number_eq date
  obtain ⟨after, within⟩ := number_bounds date
  have positive : ¬((date.number : Int) < 1) := by
    have := number_pos date
    omega
  have year : yearOfNumber date.number = date.year := yearOfNumber_eq after within
  have rest : date.number - daysBeforeYear date.year =
      ((monthLengths (isLeap date.year)).take before).sum + date.day := by omega
  have placed := splitDay_sum_add 1 date.isDate.day_pos most
  simp only [ofNumber?, if_neg positive, Int.toNat_natCast, year, rest, placed]
  rw [ofParts?_eq_some]
  omega

theorem exists_number (number : Nat) (positive : 1 ≤ number) (within : number ≤ lastDay) :
    ∃ date : Date, date.number = number := by
  obtain ⟨first, after, most⟩ := yearOfNumber_bounds positive
  generalize yearOfNumber number = year at first after most
  have last : year ≤ lastYear := by
    by_contra beyond
    have later : lastDay ≤ daysBeforeYear year := daysBeforeYear_mono (Nat.lt_of_not_le beyond)
    omega
  obtain ⟨before, rfl⟩ : ∃ before, year = before + 1 := ⟨year - 1, by omega⟩
  have length : number - daysBeforeYear (before + 1) ≤ (monthLengths (isLeap (before + 1))).sum := by
    rw [daysBeforeYear_succ] at most
    rw [sum_monthLengths]
    omega
  obtain ⟨place, day, inside, some, bound, split⟩ := exists_place (by omega) length
  refine ⟨⟨before + 1, place + 1, day, first, last, some, bound⟩, ?_⟩
  change daysBeforeYear (before + 1) + daysBeforeMonth (before + 1) (place + 1) + day = number
  rw [daysBeforeMonth_succ]
  omega

theorem ofNumber?_eq_none {number : Int} (outside : number < 1 ∨ (lastDay : Int) < number) :
    ofNumber? number = none := by
  by_cases negative : number < 1
  · rw [ofNumber?, if_pos negative]
  · obtain ⟨count, rfl⟩ : ∃ count : Nat, number = count := ⟨number.toNat, by omega⟩
    obtain ⟨_, _, most⟩ := yearOfNumber_bounds (show 1 ≤ count by omega)
    simp only [ofNumber?, if_neg negative, Int.toNat_natCast]
    refine Option.eq_none_iff_forall_ne_some.mpr fun date found => ?_
    obtain ⟨same, _⟩ := ofParts?_eq_some.mp found
    have last := date.isDate.year_le
    have early : daysBeforeYear (yearOfNumber count + 1) ≤ daysBeforeYear (lastYear + 1) :=
      daysBeforeYear_mono (by omega)
    have whole : daysBeforeYear (lastYear + 1) = lastDay := by decide
    omega

theorem ofNumber?_eq_some {number : Int} {date : Date} :
    ofNumber? number = some date ↔ (date.number : Int) = number := by
  constructor
  · intro found
    by_cases outside : number < 1 ∨ (lastDay : Int) < number
    · rw [ofNumber?_eq_none outside] at found
      cases found
    · obtain ⟨other, same⟩ := exists_number number.toNat (by omega) (by omega)
      have whole : (other.number : Int) = number := by omega
      rw [← whole, ofNumber?_number] at found
      cases found
      exact whole
  · rintro rfl
    exact ofNumber?_number date

theorem number_inj {date other : Date} (same : date.number = other.number) : date = other :=
  Option.some.inj ((ofNumber?_number date).symm.trans (same ▸ ofNumber?_number other))

theorem addDays?_eq_some {date other : Date} {days : Int} :
    date.addDays? days = some other ↔ (other.number : Int) = date.number + days :=
  ofNumber?_eq_some

/-! ## From one date to the next -/

def next? (date : Date) : Option Date :=
  if day : IsDate date.year date.month (date.day + 1) then some ⟨_, _, _, day⟩
  else if month : IsDate date.year (date.month + 1) 1 then some ⟨_, _, _, month⟩
  else if year : IsDate (date.year + 1) 1 1 then some ⟨_, _, _, year⟩
  else none

/-- From `start` it is so many days on to the last date. -/
inductive DaysOn (start : Date) : Nat → Date → Prop
  | here : DaysOn start 0 start
  | onward {days : Nat} {date later : Date} (before : DaysOn start days date) (next : date.next? = some later) :
    DaysOn start (days + 1) later

def Apart (start : Date) (days : Int) (stop : Date) : Prop :=
  (0 ≤ days ∧ DaysOn start days.toNat stop) ∨ (days ≤ 0 ∧ DaysOn stop (-days).toNat start)

theorem daysBeforeMonth_next (year : Nat) {month : Nat} (first : 1 ≤ month) :
    daysBeforeMonth year (month + 1) = daysBeforeMonth year month + daysInMonth year month := by
  obtain ⟨before, rfl⟩ : ∃ before, month = before + 1 := ⟨month - 1, by omega⟩
  rw [daysBeforeMonth_succ, daysBeforeMonth_succ, daysInMonth_succ, sum_take_succ]

theorem next?_cases (date : Date) :
    (∃ later, date.next? = some later ∧ later.number = date.number + 1) ∨
      date.next? = none ∧ date.number = lastDay := by
  have isDate := date.isDate
  obtain ⟨firstMonth, lastMonth⟩ := month_bounds isDate
  have here : date.number = daysBeforeYear date.year + daysBeforeMonth date.year date.month + date.day := rfl
  by_cases day : IsDate date.year date.month (date.day + 1)
  · exact Or.inl ⟨_, dif_pos day, rfl⟩
  -- From here on the date is the last of its month.
  have lastDate : date.day = daysInMonth date.year date.month := by
    by_contra more
    have most := isDate.day_le
    exact day ⟨isDate.year_pos, isDate.year_le, by omega, by omega⟩
  have onward := daysBeforeMonth_next date.year firstMonth
  by_cases month : IsDate date.year (date.month + 1) 1
  · refine Or.inl ⟨_, (dif_neg day).trans (dif_pos month), ?_⟩
    change daysBeforeYear date.year + daysBeforeMonth date.year (date.month + 1) + 1 = _
    omega
  have december : date.month = 12 := by
    by_contra other
    have length := daysInMonth_bounds date.year (date.month + 1) (by omega) (by omega)
    exact month ⟨isDate.year_pos, isDate.year_le, Nat.le_refl 1, by omega⟩
  have whole := daysBeforeMonth_after_december date.year
  have nextYear := daysBeforeYear_next isDate.year_pos
  rw [december] at onward lastDate here
  by_cases year : IsDate (date.year + 1) 1 1
  · refine Or.inl ⟨_, (dif_neg day).trans ((dif_neg month).trans (dif_pos year)), ?_⟩
    change daysBeforeYear (date.year + 1) + daysBeforeMonth (date.year + 1) 1 + 1 = _
    have first : daysBeforeMonth (date.year + 1) 1 = 0 := rfl
    omega
  · refine Or.inr ⟨(dif_neg day).trans ((dif_neg month).trans (dif_neg year)), ?_⟩
    have lastOfAll : date.year = lastYear := by
      by_contra other
      have most := isDate.year_le
      have length := daysInMonth_bounds (date.year + 1) 1 (by omega) (by omega)
      exact year ⟨by omega, by omega, Nat.le_refl 1, by omega⟩
    have total : daysBeforeYear (lastYear + 1) = lastDay := by decide
    rw [lastOfAll] at nextYear onward lastDate here whole
    omega

theorem number_of_next {date later : Date} (next : date.next? = some later) : later.number = date.number + 1 := by
  -- The step led to a date, so it did not start at the end of the calendar.
  rcases next?_cases date with ⟨other, found, number⟩ | ⟨none, _⟩
  · rw [next] at found
    cases found
    exact number
  · rw [next] at none
    cases none

theorem daysOn_iff {start stop : Date} {days : Nat} :
    DaysOn start days stop ↔ stop.number = start.number + days := by
  constructor
  · intro path
    induction path with
    | here => rfl
    | onward _ next ih =>
      have number := number_of_next next
      omega
  · intro number
    induction days generalizing stop with
    | zero =>
      obtain rfl := number_inj number
      exact .here
    | succ days ih =>
      have first := number_pos start
      have last := number_le stop
      obtain ⟨date, same⟩ := exists_number (start.number + days) (by omega) (by omega)
      have before := ih same
      rcases next?_cases date with ⟨later, found, number⟩ | ⟨_, lastOfAll⟩
      · obtain rfl : later = stop := number_inj (by omega)
        exact before.onward found
      · omega

theorem apart_iff {start stop : Date} {days : Int} :
    Apart start days stop ↔ (stop.number : Int) = start.number + days := by
  rw [Apart, daysOn_iff, daysOn_iff]
  omega

end Date

end Worksheet
