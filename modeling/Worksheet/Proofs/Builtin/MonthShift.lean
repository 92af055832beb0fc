import Worksheet.Proofs.Builtin.Calendar
import Worksheet.Proofs.Builtin.DateArgument

/-! Dates moved by months. They lie in the month counted from the start, on the same day or on the last one there is,
or on the last day of that month, and a month outside the calendar is refused; but a year beyond 32 bits is a failure.
-/

namespace Worksheet.Builtin

variable {zone : Zone}

open Calendar (daysInMonth month_bounds daysInMonth_bounds)

def Countable (count : Int) : Prop :=
  -yearLimit ≤ count.fdiv 12 ∧ count.fdiv 12 < yearLimit

instance (count : Int) : Decidable (Countable count) :=
  inferInstanceAs (Decidable (_ ∧ _))

def InCalendar (count : Int) : Prop :=
  1 ≤ count.fdiv 12 ∧ count.fdiv 12 ≤ 9999

instance (count : Int) : Decidable (InCalendar count) :=
  inferInstanceAs (Decidable (_ ∧ _))

theorem InCalendar.countable {count : Int} (inside : InCalendar count) : Countable count := by
  rw [InCalendar] at inside
  rw [Countable, yearLimit]
  omega

/-- The answer is the date in the month with the given count, on the day that is wanted there, and a value error for
those months only that are in no year of the calendar. -/
structure AnswersIn (count : Int) (day : Nat → Nat → Nat) (answer : Except Failure Value) : Prop where
  refused_iff : answer = .ok (.error .value) ↔ ¬InCalendar count
  dated : InCalendar count → ∃ date : Date, answer = .ok (.text (isoText date)) ∧
    (date.year : Int) = count.fdiv 12 ∧ (date.month : Int) = count.fmod 12 + 1 ∧ date.day = day date.year date.month

theorem exists_beginsMonth {count : Int} (inside : InCalendar count) : ∃ first, BeginsMonth count first := by
  have found := (exists_beginsMonth_iff 0 (count + 1)).mpr (by simpa [InCalendar] using inside)
  simpa using found

theorem inCalendar_monthCount (date : Date) : InCalendar (monthCount date) := by
  obtain ⟨year, _⟩ := monthCount_eq_iff.mp (rfl : monthCount date = monthCount date)
  have first := date.isDate.year_pos
  have last : date.year ≤ 9999 := date.isDate.year_le
  rw [InCalendar, ← year]
  omega

section Dated

variable {count : Int} {day : Nat → Nat → Nat}
  (possible : ∀ year month, 1 ≤ month → month ≤ 12 → 1 ≤ day year month ∧ day year month ≤ daysInMonth year month)

include possible

theorem exists_date_in (inside : InCalendar count) :
    ∃ date : Date, monthCount date = count ∧ date.day = day date.year date.month := by
  obtain ⟨first, begins⟩ := exists_beginsMonth inside
  obtain ⟨least, greatest⟩ := month_bounds first.isDate
  obtain ⟨positive, within⟩ := possible first.year first.month least greatest
  exact ⟨⟨first.year, first.month, _, first.isDate.year_pos, first.isDate.year_le, positive, within⟩,
    begins.month_eq, rfl⟩

theorem answersIn_dateValue {found : Option Date}
    (found_iff : ∀ date, found = some date ↔ monthCount date = count ∧ date.day = day date.year date.month) :
    AnswersIn count day (.ok (dateValue found)) := by
  constructor
  · rw [Except.ok.injEq, dateValue_eq_error]
    constructor
    · intro none inside
      obtain ⟨date, there⟩ := exists_date_in possible inside
      rw [(found_iff date).mpr there] at none
      cases none
    · intro outside
      refine Option.eq_none_iff_forall_ne_some.mpr fun date same => outside ?_
      rw [← ((found_iff date).mp same).1]
      exact inCalendar_monthCount date
  · intro inside
    obtain ⟨date, there⟩ := exists_date_in possible inside
    obtain ⟨year, month⟩ := monthCount_eq_iff.mp there.1
    exact ⟨date, by rw [(found_iff date).mpr there, dateValue], year, month, there.2⟩

end Dated

theorem addMonths_of_countable {start : Date} {months : Int} (countable : Countable (monthCount start + months)) :
    addMonths start months = .ok (inMonth? (monthCount start + months) start.day) := by
  obtain ⟨least, most⟩ := countable
  rw [addMonths]
  exact if_neg (by omega)

theorem addMonths_of_not_countable {start : Date} {months : Int}
    (far : ¬Countable (monthCount start + months)) : addMonths start months = .error .outOfRange := by
  rw [Countable] at far
  rw [addMonths]
  exact if_pos (by omega)

section Reading

variable {start months : Value} {first : Date} {count : Int} (denotes : start.Denotes zone first)
  (counted : months.toInteger = .ok count)

include denotes counted

theorem shiftMonths_of_denotes : shiftMonths zone [start, months] = (addMonths first count).map dateValue := by
  have dates : datesOf zone [start] = .ok (some [first]) := datesOf_of_denotes (.cons denotes .nil)
  have moved : shifted first months = addMonths first count := by simp only [shifted, counted]
  change (datesOf zone [start] >>= _) = _
  rw [dates]
  change (shifted first months >>= _) = _
  rw [moved]
  cases addMonths first count <;> rfl

theorem endOfMonth_of_denotes : endOfMonth zone [start, months] =
    (addMonths first.firstOfMonth count).map fun found => dateValue (found.bind lastOfMonth?) := by
  have dates : datesOf zone [start] = .ok (some [first]) := datesOf_of_denotes (.cons denotes .nil)
  have moved : shifted first.firstOfMonth months = addMonths first.firstOfMonth count := by
    simp only [shifted, counted]
  change (datesOf zone [start] >>= _) = _
  rw [dates]
  change (shifted first.firstOfMonth months >>= _) = _
  rw [moved]
  cases addMonths first.firstOfMonth count <;> rfl

theorem answersIn_shiftMonths (countable : Countable (monthCount first + count)) :
    AnswersIn (monthCount first + count) (fun year month => min first.day (daysInMonth year month))
      (shiftMonths zone [start, months]) := by
  rw [shiftMonths_of_denotes denotes counted, addMonths_of_countable countable]
  refine answersIn_dateValue (fun year month least greatest => ?_) fun date => inMonth?_eq_some
  have length := daysInMonth_bounds year month least greatest
  have positive := first.isDate.day_pos
  omega

theorem answersIn_endOfMonth (countable : Countable (monthCount first + count)) :
    AnswersIn (monthCount first + count) daysInMonth (endOfMonth zone [start, months]) := by
  have moved : addMonths first.firstOfMonth count = .ok (inMonth? (monthCount first + count) 1) :=
    addMonths_of_countable countable
  rw [endOfMonth_of_denotes denotes counted, moved]
  refine answersIn_dateValue (fun year month least greatest => ?_) fun date => ?_
  · have length := daysInMonth_bounds year month least greatest
    omega
  · rw [Option.bind_eq_some_iff]
    constructor
    · rintro ⟨inMonth, there, last⟩
      have ends := lastOfMonth?_eq_some.mp last
      exact ⟨ends.month_eq.trans (inMonth?_eq_some.mp there).1, ends.day_eq⟩
    · rintro ⟨month, day⟩
      have long := Nat.le_trans date.isDate.day_pos date.isDate.day_le
      exact ⟨date.firstOfMonth, inMonth?_eq_some.mpr ⟨month, (Nat.min_eq_left long).symm⟩,
        lastOfMonth?_eq_some.mpr ⟨rfl, day⟩⟩

theorem shiftMonths_of_not_countable (far : ¬Countable (monthCount first + count)) :
    shiftMonths zone [start, months] = .error .outOfRange ∧ endOfMonth zone [start, months] = .error .outOfRange := by
  have fromFirst : addMonths first.firstOfMonth count = .error .outOfRange := addMonths_of_not_countable far
  rw [shiftMonths_of_denotes denotes counted, endOfMonth_of_denotes denotes counted, addMonths_of_not_countable far,
    fromFirst]
  exact ⟨rfl, rfl⟩

/-- A date moved by months: it lies in the month so many further on, on the same day or the last there is, and the last
of a month is that of the month so many further on; a value error says that this month is in no year from 1 to 9999.
That holds exactly if the year of the month fits into 32 bits, and beyond both functions fail. -/
theorem months_shift :
    (AnswersIn (monthCount first + count) (fun year month => min first.day (daysInMonth year month))
        (shiftMonths zone [start, months]) ∧
      AnswersIn (monthCount first + count) daysInMonth (endOfMonth zone [start, months]) ↔
        Countable (monthCount first + count)) ∧
    (¬Countable (monthCount first + count) →
      shiftMonths zone [start, months] = .error .outOfRange ∧ endOfMonth zone [start, months] = .error .outOfRange) := by
  refine ⟨⟨fun ⟨shifts, _⟩ => ?_, fun countable => ?_⟩, shiftMonths_of_not_countable denotes counted⟩
  · by_contra far
    have refused := shifts.refused_iff.mpr fun inside => far inside.countable
    rw [(shiftMonths_of_not_countable denotes counted far).1] at refused
    cases refused
  · exact ⟨answersIn_shiftMonths denotes counted countable, answersIn_endOfMonth denotes counted countable⟩

end Reading

theorem months_shift_january :
    (Value.text "2024-01-31".toList).Denotes .utc ⟨2024, 1, 31, by decide⟩ ∧
      shiftMonths .utc [.text "2024-01-31".toList, .integer 1] = .ok (.text "2024-02-29".toList) ∧
      endOfMonth .utc [.text "2024-01-31".toList, .integer 100000] = .ok (.error .value) := by
  have denotes : (Value.text "2024-01-31".toList).Denotes .utc ⟨2024, 1, 31, by decide⟩ :=
    denotes_isoText (by decide) (by decide)
  obtain ⟨⟨_, within⟩, _⟩ := months_shift denotes (show (Value.integer 1).toInteger = .ok 1 from rfl)
  obtain ⟨⟨_, far⟩, _⟩ := months_shift denotes (show (Value.integer 100000).toInteger = .ok 100000 from rfl)
  obtain ⟨⟨year, month, day, _⟩, answer, years, months, days⟩ := (within (by decide)).1.dated (by decide)
  change (year : Int) = 2024 at years
  change (month : Int) = 2 at months
  obtain rfl : year = 2024 := by omega
  obtain rfl : month = 2 := by omega
  obtain rfl : day = 29 := days.trans (show min 31 (daysInMonth 2024 2) = 29 by decide)
  have february : isoText ⟨2024, 2, 29, by decide⟩ = "2024-02-29".toList := by decide
  rw [february] at answer
  exact ⟨denotes, answer, (far (by decide)).2.refused_iff.mpr (by decide)⟩

theorem months_shift_eons :
    ¬∀ (zone : Zone) (start months : Value) (first : Date) (count : Int), start.Denotes zone first →
      months.toInteger = .ok count → AnswersIn (monthCount first + count)
        (fun year month => min first.day (daysInMonth year month)) (shiftMonths zone [start, months]) := by
  intro always
  have denotes : (Value.text "2024-01-31".toList).Denotes .utc ⟨2024, 1, 31, by decide⟩ :=
    denotes_isoText (by decide) (by decide)
  have counted : (Value.integer 100000000000).toInteger = .ok 100000000000 := rfl
  have refused := (always _ _ _ _ _ denotes counted).refused_iff.mpr (by decide)
  rw [(shiftMonths_of_not_countable denotes counted (by decide)).1] at refused
  cases refused

end Worksheet.Builtin
