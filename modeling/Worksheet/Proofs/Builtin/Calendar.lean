import Worksheet.Builtin.Calendar
import Worksheet.Proofs.Calendar.Day
import Worksheet.Proofs.Calendar.Written
import Worksheet.Proofs.Outcome

/-! Functions that make dates. A date made of parts lies so many days from the first of a month, and a date moved by
months lies in the month so many further on; what is written for them is read back from the year 1000 on. -/

namespace Worksheet.Builtin

variable {zone : Zone}

open Calendar (daysInMonth month_bounds daysInMonth_bounds)

/-! ## Months -/

structure BeginsMonth (count : Int) (first : Date) : Prop where
  month_eq : monthCount first = count
  day_eq : first.day = 1

/-- The day is kept, but for the months that are too short for it. -/
structure MovedTo (start : Date) (months : Int) (date : Date) : Prop where
  month_eq : monthCount date = monthCount start + months
  day_eq : date.day = min start.day (daysInMonth date.year date.month)

structure EndsMonth (count : Int) (last : Date) : Prop where
  month_eq : monthCount last = count
  day_eq : last.day = daysInMonth last.year last.month

/-- The first of the month is the one that so many months lead to from January of the year; from there it is so many
days less one. -/
def RolledTo (year month day : Int) (date : Date) : Prop :=
  ∃ first, BeginsMonth (year * 12 + (month - 1)) first ∧ first.Apart (day - 1) date

theorem monthCount_eq_iff {date : Date} {count : Int} :
    monthCount date = count ↔ (date.year : Int) = count.fdiv 12 ∧ (date.month : Int) = count.fmod 12 + 1 := by
  have bounds := month_bounds date.isDate
  rw [monthCount, Int.fdiv_eq_ediv_of_nonneg _ (by decide), Int.fmod_eq_emod_of_nonneg _ (by decide)]
  omega

theorem fdiv_months (year month : Int) : (year * 12 + (month - 1)).fdiv 12 = year + (month - 1).fdiv 12 := by
  rw [Int.fdiv_eq_ediv_of_nonneg _ (by decide), Int.fdiv_eq_ediv_of_nonneg _ (by decide)]
  omega

theorem fmod_months (year month : Int) : (year * 12 + (month - 1)).fmod 12 = (month - 1).fmod 12 := by
  rw [Int.fmod_eq_emod_of_nonneg _ (by decide), Int.fmod_eq_emod_of_nonneg _ (by decide)]
  omega

theorem ofParts?_eq_some_iff_beginsMonth {count : Int} {first : Date} :
    Date.ofParts? (count.fdiv 12) (count.fmod 12 + 1) 1 = some first ↔ BeginsMonth count first := by
  rw [Date.ofParts?_eq_some]
  constructor
  · rintro ⟨sameYear, sameMonth, sameDay⟩
    exact ⟨monthCount_eq_iff.mpr ⟨sameYear, sameMonth⟩, by omega⟩
  · rintro ⟨sameCount, sameDay⟩
    obtain ⟨sameYear, sameMonth⟩ := monthCount_eq_iff.mp sameCount
    exact ⟨sameYear, sameMonth, by omega⟩

theorem BeginsMonth.unique {count : Int} {first other : Date} (begins : BeginsMonth count first)
    (alsoBegins : BeginsMonth count other) : first = other :=
  Option.some.inj
    ((ofParts?_eq_some_iff_beginsMonth.mpr begins).symm.trans (ofParts?_eq_some_iff_beginsMonth.mpr alsoBegins))

theorem exists_beginsMonth_iff (year month : Int) : (∃ first, BeginsMonth (year * 12 + (month - 1)) first) ↔
    1 ≤ year + (month - 1).fdiv 12 ∧ year + (month - 1).fdiv 12 ≤ 9999 := by
  constructor
  · rintro ⟨first, begins⟩
    obtain ⟨sameYear, _⟩ := monthCount_eq_iff.mp begins.month_eq
    rw [fdiv_months] at sameYear
    have positive := first.isDate.year_pos
    have most : first.year ≤ 9999 := first.isDate.year_le
    omega
  · rintro ⟨positive, most⟩
    have range : 0 ≤ (month - 1).fmod 12 ∧ (month - 1).fmod 12 < 12 :=
      ⟨Int.fmod_nonneg_of_pos _ (by decide), Int.fmod_lt_of_pos _ (by decide)⟩
    obtain ⟨place, inYear⟩ : ∃ place : Nat, (month - 1).fmod 12 = place := ⟨_, (Int.toNat_of_nonneg range.1).symm⟩
    obtain ⟨number, years⟩ : ∃ number : Nat, year + (month - 1).fdiv 12 = number :=
      ⟨_, (Int.toNat_of_nonneg (by omega)).symm⟩
    have days := daysInMonth_bounds number (place + 1) (by omega) (by omega)
    refine ⟨⟨number, place + 1, 1, by omega, ?_, Nat.le_refl 1, by omega⟩, ?_, rfl⟩
    · change number ≤ 9999
      omega
    · rw [monthCount_eq_iff, fdiv_months, fmod_months, years, inYear]
      exact ⟨rfl, rfl⟩

theorem rolledDate?_eq_some {year month day : Int} {date : Date} :
    rolledDate? year month day = some date ↔ RolledTo year month day date := by
  rw [rolledDate?, ← fdiv_months, ← fmod_months year month]
  simp only [Option.bind_eq_bind, Option.bind_eq_some_iff, ofParts?_eq_some_iff_beginsMonth, Date.addDays?_eq_some,
    RolledTo, Date.apart_iff]

theorem rolledDate?_add_years (year years month day : Int) :
    rolledDate? year (month + 12 * years) day = rolledDate? (year + years) month day := by
  have count : year * 12 + (month + 12 * years - 1) = (year + years) * 12 + (month - 1) := by omega
  refine Option.ext fun date => ?_
  rw [rolledDate?_eq_some, rolledDate?_eq_some, RolledTo, RolledTo, count]

theorem rolledDate?_eq_none {year month day : Int} : rolledDate? year month day = none ↔
    (year + (month - 1).fdiv 12 < 1 ∨ 9999 < year + (month - 1).fdiv 12) ∨
      ∃ first, BeginsMonth (year * 12 + (month - 1)) first ∧ ∀ date, ¬first.Apart (day - 1) date := by
  have inYears := exists_beginsMonth_iff year month
  rw [Option.eq_none_iff_forall_ne_some]
  constructor
  · intro never
    by_cases inside : 1 ≤ year + (month - 1).fdiv 12 ∧ year + (month - 1).fdiv 12 ≤ 9999
    · obtain ⟨first, begins⟩ := inYears.mpr inside
      exact Or.inr ⟨first, begins, fun date apart => never date (rolledDate?_eq_some.mpr ⟨first, begins, apart⟩)⟩
    · exact Or.inl (by omega)
  · rintro outside date found
    obtain ⟨first, begins, apart⟩ := rolledDate?_eq_some.mp found
    rcases outside with noYear | ⟨other, alsoBegins, never⟩
    · have inside := inYears.mp ⟨first, begins⟩
      omega
    · obtain rfl := begins.unique alsoBegins
      exact never date apart

theorem RolledTo.apart {year month day days : Int} {earlier later : Date} (before : RolledTo year month day earlier)
    (after : RolledTo year month (day + days) later) : earlier.Apart days later := by
  obtain ⟨first, begins, near⟩ := before
  obtain ⟨other, alsoBegins, far⟩ := after
  obtain rfl := begins.unique alsoBegins
  rw [Date.apart_iff] at near far ⊢
  omega

theorem inMonth?_eq_some {count : Int} {day : Nat} {date : Date} : inMonth? count day = some date ↔
    monthCount date = count ∧ date.day = min day (daysInMonth date.year date.month) := by
  have range : 0 ≤ count.fmod 12 := Int.fmod_nonneg_of_pos _ (by decide)
  rw [monthCount_eq_iff, inMonth?]
  split
  next early =>
    have positive := date.isDate.year_pos
    refine ⟨nofun, ?_⟩
    rintro ⟨⟨sameYear, _⟩, _⟩
    omega
  next =>
    rw [Date.ofParts?_eq_some]
    constructor
    · rintro ⟨sameYear, sameMonth, sameDay⟩
      have month : (count.fmod 12).toNat + 1 = date.month := by omega
      rw [← sameYear, Int.toNat_natCast, month] at sameDay
      exact ⟨⟨sameYear, by omega⟩, by omega⟩
    · rintro ⟨⟨sameYear, sameMonth⟩, sameDay⟩
      have month : (count.fmod 12).toNat + 1 = date.month := by omega
      rw [← sameYear, Int.toNat_natCast, month, ← sameDay]
      exact ⟨rfl, by omega, rfl⟩

theorem addMonths_eq_some {start date : Date} {months : Int} :
    addMonths start months = .ok (some date) ↔ MovedTo start months date := by
  have moved : inMonth? (monthCount start + months) start.day = some date ↔ MovedTo start months date :=
    inMonth?_eq_some.trans ⟨fun ⟨month, day⟩ => ⟨month, day⟩, fun ⟨month, day⟩ => ⟨month, day⟩⟩
  rw [addMonths]
  split
  next beyond =>
    -- The years refused here lie far outside the calendar.
    refine ⟨nofun, fun there => ?_⟩
    obtain ⟨sameYear, _⟩ := monthCount_eq_iff.mp there.month_eq
    have most : date.year ≤ 9999 := date.isDate.year_le
    simp only [yearLimit, ← sameYear] at beyond
    omega
  next => rw [Except.ok.injEq, moved]

theorem shifted_eq_some {start date : Date} {months : Value} : shifted start months = .ok (some date) ↔
    ∃ count, months.toInteger = .ok count ∧ MovedTo start count date := by
  rw [shifted]
  split
  next read => simp [read]
  next read => simp [read]
  next count read => simp [read, addMonths_eq_some]

theorem lastOfMonth?_eq_some {date last : Date} :
    lastOfMonth? date = some last ↔ EndsMonth (monthCount date) last := by
  rw [lastOfMonth?, Date.ofParts?_eq_some]
  constructor
  · rintro ⟨sameYear, sameMonth, sameDay⟩
    have year : last.year = date.year := by omega
    have month : last.month = date.month := by omega
    exact ⟨by rw [monthCount, monthCount, year, month], by rw [year, month]; omega⟩
  · rintro ⟨sameCount, sameDay⟩
    obtain ⟨year, month⟩ := monthCount_eq_iff.mp sameCount
    obtain ⟨ownYear, ownMonth⟩ := monthCount_eq_iff.mp (rfl : monthCount date = monthCount date)
    have years : last.year = date.year := by omega
    have months : last.month = date.month := by omega
    rw [years, months] at sameDay
    omega

/-! ## Answers -/

theorem dateOfParts_integers (year month day : Int) :
    dateOfParts [.integer year, .integer month, .integer day] = .ok (dateValue (rolledDate? year month day)) :=
  rfl

theorem dateValue_eq_text {answer : Option Date} {text : Text} :
    dateValue answer = .text text ↔ ∃ date, answer = some date ∧ text = isoText date := by
  cases answer with
  | none => simp [dateValue]
  | some date => simp [dateValue, eq_comm]

theorem dateValue_eq_error {answer : Option Date} : dateValue answer = .error .value ↔ answer = none := by
  cases answer <;> simp [dateValue]

theorem dateOfParts_eq_text {year month day : Int} {text : Text} :
    dateOfParts [.integer year, .integer month, .integer day] = .ok (.text text) ↔
      ∃ date, RolledTo year month day date ∧ text = isoText date := by
  simp only [dateOfParts_integers, Except.ok.injEq, dateValue_eq_text, rolledDate?_eq_some]

theorem dateOfParts_eq_isoText {year month day : Int} {date : Date} :
    dateOfParts [.integer year, .integer month, .integer day] = .ok (.text (isoText date)) ↔
      RolledTo year month day date := by
  rw [dateOfParts_eq_text]
  constructor
  · rintro ⟨other, rolled, same⟩
    rwa [isoText_inj same]
  · exact fun rolled => ⟨date, rolled, rfl⟩

theorem onDate_eq_text {start : Value} {answer : Date → Except Failure Value} {text : Text} :
    (datesOf zone [start] >>= fun dates =>
      match dates with
      | some [date] => answer date
      | _ => .ok (.error .value)) = .ok (.text text) ↔
    ∃ moment, start.toMoment zone = .ok (some moment) ∧ answer moment.date = .ok (.text text) := by
  rw [datesOf]
  cases start.toMoment zone with
  | error failure => exact ⟨nofun, fun ⟨_, read, _⟩ => nomatch read⟩
  | ok moment =>
    cases moment with
    | none => exact ⟨nofun, fun ⟨_, read, _⟩ => nomatch read⟩
    | some moment =>
      constructor
      · exact fun written => ⟨moment, rfl, written⟩
      · rintro ⟨other, read, written⟩
        cases read
        exact written

theorem shiftMonths_eq_text {start months : Value} {text : Text} :
    shiftMonths zone [start, months] = .ok (.text text) ↔ ∃ moment count date, start.toMoment zone = .ok (some moment) ∧
      months.toInteger = .ok count ∧ MovedTo moment.date count date ∧ text = isoText date := by
  have opened : shiftMonths zone [start, months] = .ok (.text text) ↔ ∃ moment, start.toMoment zone = .ok (some moment) ∧
      (shifted moment.date months >>= fun date => .ok (dateValue date)) = .ok (.text text) := onDate_eq_text
  rw [opened]
  constructor
  · rintro ⟨moment, read, answer⟩
    obtain ⟨found, there, written⟩ := bind_eq_ok.mp answer
    obtain ⟨date, rfl, same⟩ := dateValue_eq_text.mp (Except.ok.inj written)
    obtain ⟨count, counted, moved⟩ := shifted_eq_some.mp there
    exact ⟨moment, count, date, read, counted, moved, same⟩
  · rintro ⟨moment, count, date, read, counted, moved, rfl⟩
    exact ⟨moment, read, bind_eq_ok.mpr ⟨some date, shifted_eq_some.mpr ⟨count, counted, moved⟩, rfl⟩⟩

theorem endOfMonth_eq_text {start months : Value} {text : Text} :
    endOfMonth zone [start, months] = .ok (.text text) ↔ ∃ moment count date, start.toMoment zone = .ok (some moment) ∧
      months.toInteger = .ok count ∧ EndsMonth (monthCount moment.date + count) date ∧ text = isoText date := by
  have opened : endOfMonth zone [start, months] = .ok (.text text) ↔ ∃ moment, start.toMoment zone = .ok (some moment) ∧
      (shifted moment.date.firstOfMonth months >>= fun date => .ok (dateValue (date.bind lastOfMonth?))) =
        .ok (.text text) := onDate_eq_text
  rw [opened]
  constructor
  · rintro ⟨moment, read, answer⟩
    obtain ⟨found, there, written⟩ := bind_eq_ok.mp answer
    obtain ⟨date, last, same⟩ := dateValue_eq_text.mp (Except.ok.inj written)
    obtain ⟨inMonth, rfl, ended⟩ := Option.bind_eq_some_iff.mp last
    obtain ⟨count, counted, moved⟩ := shifted_eq_some.mp there
    have ends := lastOfMonth?_eq_some.mp ended
    exact ⟨moment, count, date, read, counted, ⟨ends.month_eq.trans moved.month_eq, ends.day_eq⟩, same⟩
  · rintro ⟨moment, count, date, read, counted, ends, rfl⟩
    -- The months are counted from a first, and every month is long enough for a first.
    have moved : MovedTo moment.date.firstOfMonth count date.firstOfMonth :=
      ⟨ends.month_eq, (Nat.min_eq_left (Nat.le_trans date.isDate.day_pos date.isDate.day_le)).symm⟩
    have ended : lastOfMonth? date.firstOfMonth = some date := lastOfMonth?_eq_some.mpr ⟨rfl, ends.day_eq⟩
    refine ⟨moment, read, bind_eq_ok.mpr ⟨_, shifted_eq_some.mpr ⟨count, counted, moved⟩, ?_⟩⟩
    rw [Option.bind_some, ended, dateValue]

/-- A date of any parts. Twelve months more are a year more; there is always an answer, which is the date that so many
days from the first of the month lead to, and none just if the month is in no year from 1 to 9999 or no date is so far
from its first; and dates of days further on are as many days apart. -/
theorem date_rolls_over (year month day : Int) :
    (∀ years, dateOfParts [.integer year, .integer (month + 12 * years), .integer day] =
      dateOfParts [.integer (year + years), .integer month, .integer day]) ∧
    (∃ answer, dateOfParts [.integer year, .integer month, .integer day] = .ok (dateValue answer) ∧
      ∀ date, answer = some date ↔ RolledTo year month day date) ∧
    (dateOfParts [.integer year, .integer month, .integer day] = .ok (.error .value) ↔
      (year + (month - 1).fdiv 12 < 1 ∨ 9999 < year + (month - 1).fdiv 12) ∨
        ∃ first, BeginsMonth (year * 12 + (month - 1)) first ∧ ∀ date, ¬first.Apart (day - 1) date) ∧
    ∀ (days : Int) (earlier later : Date),
      dateOfParts [.integer year, .integer month, .integer day] = .ok (.text (isoText earlier)) →
      dateOfParts [.integer year, .integer month, .integer (day + days)] = .ok (.text (isoText later)) →
        earlier.Apart days later := by
  refine ⟨fun years => ?_, ⟨_, dateOfParts_integers year month day, fun _ => rolledDate?_eq_some⟩, ?_, ?_⟩
  · rw [dateOfParts_integers, dateOfParts_integers, rolledDate?_add_years]
  · rw [dateOfParts_integers, Except.ok.injEq, dateValue_eq_error, rolledDate?_eq_none]
  · intro days earlier later before after
    exact (dateOfParts_eq_isoText.mp before).apart (dateOfParts_eq_isoText.mp after)

theorem date_rolls_over_leap_day :
    dateOfParts [.integer 2024, .integer 3, .integer 0] = .ok (.text (isoText ⟨2024, 2, 29, by decide⟩)) ∧
      dateOfParts [.integer 2024, .integer 3, .integer (0 + 366)] = .ok (.text (isoText ⟨2025, 3, 1, by decide⟩)) ∧
        Date.Apart ⟨2024, 2, 29, by decide⟩ 366 ⟨2025, 3, 1, by decide⟩ := by
  have before : RolledTo 2024 3 0 ⟨2024, 2, 29, by decide⟩ := rolledDate?_eq_some.mp (by decide)
  have after : RolledTo 2024 3 (0 + 366) ⟨2025, 3, 1, by decide⟩ := rolledDate?_eq_some.mp (by decide)
  have first := dateOfParts_eq_isoText.mpr before
  have second := dateOfParts_eq_isoText.mpr after
  exact ⟨first, second, (date_rolls_over 2024 3 0).2.2.2 366 _ _ first second⟩

/-! ## Reading back -/

structure WritesIn (places number : Nat) (digits : Text) : Prop where
  length_eq : digits.length = places
  isDigit : ∀ char ∈ digits, char.isDigit = true
  value_eq : Text.digitsValue digits = number

def WritesInFull (date : Date) (text : Text) : Prop :=
  ∃ year month day, text = year ++ '-' :: (month ++ '-' :: day) ∧ WritesIn 4 date.year year ∧
    WritesIn 2 date.month month ∧ WritesIn 2 date.day day

structure ReadsBack (zone : Zone) (date : Date) (text : Text) : Prop where
  inFull : WritesInFull date text
  moment : (Value.text text).toMoment zone = .ok (some (DateTime.ofDate date))
  year : momentPart "YEAR" (·.date.year) zone [.text text] = .ok (.ofNat date.year)
  month : momentPart "MONTH" (·.date.month) zone [.text text] = .ok (.ofNat date.month)
  day : momentPart "DAY" (·.date.day) zone [.text text] = .ok (.ofNat date.day)

structure Unread (zone : Zone) (text : Text) : Prop where
  moment : (Value.text text).toMoment zone = .ok none
  part : ∀ name part, momentPart name part zone [.text text] = .ok (.error .value)

/-- The date is what the text is written for, and what is read there if the year has four digits. -/
structure WrittenFor (zone : Zone) (date : Date) (text : Text) : Prop where
  text_eq : text = isoText date
  readsBack_iff : ReadsBack zone date text ↔ 1000 ≤ date.year
  unread : date.year < 1000 → Unread zone text

theorem momentPart_of_moment {value : Value} {moment : Option DateTime} (read : value.toMoment zone = .ok moment)
    (name : String) (part : DateTime → Nat) : momentPart name part zone [value] =
      .ok (moment.elim (.error .value) fun moment => .ofNat (part moment)) := by
  have counted : require name [value] 1 1 = .ok () := rfl
  have found : momentAt zone [value] 0 = .ok moment := read
  rw [momentPart, counted, found]
  cases moment <;> rfl

theorem writesIn_twoPlaces {number : Nat} (small : number < 100) : WritesIn 2 number (Value.twoPlaces number) :=
  ⟨Value.length_twoPlaces small, fun _ => Value.isDigit_of_mem_twoPlaces, Value.digitsValue_twoPlaces number⟩

theorem writesInFull_isoText {date : Date} (late : 1000 ≤ date.year) : WritesInFull date (isoText date) :=
  ⟨_, _, _, isoText_eq date,
    ⟨(length_ofNat_year date).mpr late, fun _ => Text.isDigit_of_mem_ofNat, Text.digitsValue_ofNat _⟩,
    writesIn_twoPlaces (month_lt date), writesIn_twoPlaces (day_lt date)⟩

theorem readsBack_isoText {date : Date} (late : 1000 ≤ date.year) : ReadsBack zone date (isoText date) := by
  have moment : (Value.text (isoText date)).toMoment zone = .ok (some (DateTime.ofDate date)) := by
    rw [toMoment_isoText, if_pos late]
  exact ⟨writesInFull_isoText late, moment, momentPart_of_moment moment _ _, momentPart_of_moment moment _ _,
    momentPart_of_moment moment _ _⟩

theorem unread_isoText {date : Date} (early : date.year < 1000) : Unread zone (isoText date) := by
  have moment : (Value.text (isoText date)).toMoment zone = .ok none := by
    rw [toMoment_isoText, if_neg (Nat.not_le_of_lt early)]
  exact ⟨moment, momentPart_of_moment moment⟩

theorem ReadsBack.late {date : Date} (back : ReadsBack zone date (isoText date)) : 1000 ≤ date.year := by
  by_contra early
  have none := (@unread_isoText zone date (Nat.lt_of_not_le early)).moment
  rw [back.moment] at none
  cases none

theorem writtenFor_isoText (date : Date) : WrittenFor zone date (isoText date) :=
  ⟨rfl, ⟨ReadsBack.late, readsBack_isoText⟩, unread_isoText⟩

/-- What is written for a date that is made of parts, moved by months or the last of a month: it is the date in full
and is read back as that date exactly if the year is 1000 or later, and else it is no date at all. -/
theorem dates_read_back (zone : Zone) (year month day : Int) (start months : Value) (text : Text) :
    (dateOfParts [.integer year, .integer month, .integer day] = .ok (.text text) →
      ∃ date, RolledTo year month day date ∧ WrittenFor zone date text) ∧
    (shiftMonths zone [start, months] = .ok (.text text) →
      ∃ moment count date, start.toMoment zone = .ok (some moment) ∧ months.toInteger = .ok count ∧
        MovedTo moment.date count date ∧ WrittenFor zone date text) ∧
    (endOfMonth zone [start, months] = .ok (.text text) →
      ∃ moment count date, start.toMoment zone = .ok (some moment) ∧ months.toInteger = .ok count ∧
        EndsMonth (monthCount moment.date + count) date ∧ WrittenFor zone date text) := by
  refine ⟨?_, ?_, ?_⟩
  · intro answer
    obtain ⟨date, rolled, rfl⟩ := dateOfParts_eq_text.mp answer
    exact ⟨date, rolled, writtenFor_isoText date⟩
  · intro answer
    obtain ⟨moment, count, date, read, counted, moved, rfl⟩ := shiftMonths_eq_text.mp answer
    exact ⟨moment, count, date, read, counted, moved, writtenFor_isoText date⟩
  · intro answer
    obtain ⟨moment, count, date, read, counted, ends, rfl⟩ := endOfMonth_eq_text.mp answer
    exact ⟨moment, count, date, read, counted, ends, writtenFor_isoText date⟩

theorem dates_read_back_february :
    dateOfParts [.integer 2024, .integer 3, .integer 0] = .ok (.text "2024-02-29".toList) ∧
      shiftMonths .utc [.text "2024-01-31".toList, .integer 1] = .ok (.text "2024-02-29".toList) ∧
      endOfMonth .utc [.text "2024-01-31".toList, .integer 1] = .ok (.text "2024-02-29".toList) ∧
      ReadsBack .utc ⟨2024, 2, 29, by decide⟩ "2024-02-29".toList := by
  have rolled : dateOfParts [.integer 2024, .integer 3, .integer 0] = .ok (.text "2024-02-29".toList) :=
    dateOfParts_eq_text.mpr ⟨⟨2024, 2, 29, by decide⟩, rolledDate?_eq_some.mp (by decide), rfl⟩
  have january : isoText ⟨2024, 1, 31, by decide⟩ = "2024-01-31".toList := by decide
  have start : ReadsBack .utc ⟨2024, 1, 31, by decide⟩ "2024-01-31".toList := by
    rw [← january]
    exact readsBack_isoText (show 1000 ≤ 2024 by decide)
  have moved : shiftMonths .utc [.text "2024-01-31".toList, .integer 1] = .ok (.text "2024-02-29".toList) :=
    shiftMonths_eq_text.mpr ⟨_, 1, ⟨2024, 2, 29, by decide⟩, start.moment, rfl, ⟨rfl, rfl⟩, rfl⟩
  have ended : endOfMonth .utc [.text "2024-01-31".toList, .integer 1] = .ok (.text "2024-02-29".toList) :=
    endOfMonth_eq_text.mpr ⟨_, 1, ⟨2024, 2, 29, by decide⟩, start.moment, rfl, ⟨rfl, rfl⟩, rfl⟩
  obtain ⟨fromParts, _⟩ := dates_read_back .utc 2024 3 0 (.text "2024-01-31".toList) (.integer 1) "2024-02-29".toList
  obtain ⟨date, _, written⟩ := fromParts rolled
  have same : isoText ⟨2024, 2, 29, by decide⟩ = isoText date := written.text_eq
  obtain rfl := isoText_inj same
  exact ⟨rolled, moved, ended, written.readsBack_iff.mpr (by decide)⟩

theorem dates_read_back_year_999 :
    ¬∀ (zone : Zone) (year month day : Int) (text : Text) (date : Date),
      dateOfParts [.integer year, .integer month, .integer day] = .ok (.text text) →
        RolledTo year month day date → ReadsBack zone date text := by
  intro back
  have rolled : RolledTo 999 1 1 ⟨999, 1, 1, by decide⟩ := rolledDate?_eq_some.mp (by decide)
  have answer : dateOfParts [.integer 999, .integer 1, .integer 1] = .ok (.text "999-01-01".toList) :=
    dateOfParts_eq_isoText.mpr rolled
  have late : 1000 ≤ 999 := (back .utc 999 1 1 _ _ answer rolled).late
  exact absurd late (by decide)

end Worksheet.Builtin
