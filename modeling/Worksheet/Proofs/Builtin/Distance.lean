import Worksheet.Proofs.Builtin.MonthShift
import Worksheet.Proofs.Calendar.Order

/-! The distance between two dates in complete months and years, and the days left over after them. What is left over
after months is too little by the days that the start loses in a month too short for it, and nothing is left over
after years from a 29 February to a 28 February that ends its month. -/

namespace Worksheet.Builtin

variable {zone : Zone}

open Calendar (daysInMonth isLeap yearLength month_bounds daysInMonth_succ)

structure Units where
  days : Int
  months : Int
  years : Int
  monthsLeft : Int
  daysPastMonths : Int
  daysPastYears : Int

/-- However the unit is spelled, the distance in it is this number. -/
def Measures (zone : Zone) (start stop : Value) (unit : String) (number : Int) : Prop :=
  ∀ spelled text, spelled.toText = .ok text → Text.upper (Text.strip text) = unit.toList →
    dateDifference zone [start, stop, spelled] = .ok (.integer number)

structure Measured (zone : Zone) (start stop : Value) (units : Units) : Prop where
  days : Measures zone start stop "D" units.days
  months : Measures zone start stop "M" units.months
  years : Measures zone start stop "Y" units.years
  monthsLeft : Measures zone start stop "YM" units.monthsLeft
  daysPastMonths : Measures zone start stop "MD" units.daysPastMonths
  daysPastYears : Measures zone start stop "YD" units.daysPastYears

/-- Moved by so many months the start is not after the stop, and so many days before it. -/
def Leaves (start : Date) (months days : Int) (stop : Date) : Prop :=
  ∃ date, MovedTo start months date ∧ date ≤ stop ∧ 0 ≤ days ∧ date.Apart days stop

structure Decomposes (start stop : Date) (units : Units) : Prop where
  days : start.Apart units.days stop
  months_eq : units.months = 12 * units.years + units.monthsLeft
  monthsLeft_bounds : 0 ≤ units.monthsLeft ∧ units.monthsLeft ≤ 11
  pastMonths : Leaves start units.months units.daysPastMonths stop
  pastYears : Leaves start (12 * units.years) units.daysPastYears stop

/-- Moved by so many months the date loses so many days, in a month that is too short for it. -/
def CutBy (start : Date) (months : Int) (cut : Nat) : Prop :=
  ∃ date, MovedTo start months date ∧ date.day + cut = start.day

/-- From a 29 February to the 28 February of a year without another one. -/
def LeapAnniversary (start stop : Date) : Prop :=
  (start.month = 2 ∧ start.day = 29) ∧ stop.month = 2 ∧ stop.day = 28 ∧ isLeap stop.year = false

instance (start stop : Date) : Decidable (LeapAnniversary start stop) :=
  inferInstanceAs (Decidable (_ ∧ _))

/-! ## Moving by months -/

theorem InCalendar.between {low count high : Int} (least : InCalendar low) (most : InCalendar high) (above : low ≤ count)
    (below : count ≤ high) : InCalendar count := by
  simp only [InCalendar, Int.fdiv_eq_ediv_of_nonneg _ (show (0 : Int) ≤ 12 by decide)] at least most ⊢
  omega

theorem MovedTo.unique {start date other : Date} {months : Int} (moves : MovedTo start months date)
    (alsoMoves : MovedTo start months other) : date = other := by
  have both := (addMonths_eq_some.mpr moves).symm.trans (addMonths_eq_some.mpr alsoMoves)
  exact Option.some.inj (Except.ok.inj both)

theorem exists_movedTo {start : Date} {months : Int} (inside : InCalendar (monthCount start + months)) :
    ∃ date, MovedTo start months date := by
  have possible : ∀ year month, 1 ≤ month → month ≤ 12 →
      1 ≤ min start.day (daysInMonth year month) ∧ min start.day (daysInMonth year month) ≤ daysInMonth year month := by
    intro year month least greatest
    have length := Calendar.daysInMonth_bounds year month least greatest
    have positive := start.isDate.day_pos
    omega
  obtain ⟨date, month, day⟩ := exists_date_in possible inside
  exact ⟨date, month, day⟩

theorem Leaves.unique {start stop : Date} {months days others : Int} (leaves : Leaves start months days stop)
    (alsoLeaves : Leaves start months others stop) : days = others := by
  obtain ⟨date, moves, _, _, apart⟩ := leaves
  obtain ⟨other, alsoMoves, _, _, alsoApart⟩ := alsoLeaves
  obtain rfl := moves.unique alsoMoves
  rw [Date.apart_iff] at apart alsoApart
  omega

theorem leaves_of_number {start stop date : Date} {months days : Int} (moves : MovedTo start months date)
    (before : date ≤ stop) (number : (stop.number : Int) - date.number = days) : Leaves start months days stop := by
  have numbers := Date.le_iff_number.mp before
  exact ⟨date, moves, before, by omega, Date.apart_iff.mpr (by omega)⟩

/-! ## Days after complete months -/

section Months

variable {start stop : Date}

theorem completeMonths_of_early (early : stop.day < start.day) :
    monthCount start + completeMonths start stop + 1 = monthCount stop := by
  simp only [completeMonths, if_pos early]
  omega

theorem completeMonths_of_not_early (late : ¬stop.day < start.day) :
    monthCount start + completeMonths start stop = monthCount stop := by
  simp only [completeMonths, if_neg late]
  omega

theorem completeMonths_nonneg (ordered : start ≤ stop) : 0 ≤ completeMonths start stop := by
  have order := Date.le_iff_monthCount.mp ordered
  by_cases early : stop.day < start.day
  · have months := completeMonths_of_early early
    omega
  · have months := completeMonths_of_not_early early
    omega

theorem exists_movedTo_completeMonths (ordered : start ≤ stop) :
    ∃ date, MovedTo start (completeMonths start stop) date := by
  have some := completeMonths_nonneg ordered
  refine exists_movedTo ((inCalendar_monthCount start).between (inCalendar_monthCount stop) (by omega) ?_)
  by_cases early : stop.day < start.day
  · have months := completeMonths_of_early early
    omega
  · have months := completeMonths_of_not_early early
    omega

theorem exists_lastOfPrevious {date : Date} (next : monthCount stop = monthCount date + 1) :
    ∃ last, stop.firstOfMonth.addDays? (-1) = some last ∧ last.day = daysInMonth date.year date.month := by
  have long := Nat.le_trans date.isDate.day_pos date.isDate.day_le
  let last : Date := ⟨date.year, date.month, _, date.isDate.year_pos, date.isDate.year_le, long, Nat.le_refl _⟩
  have nextMonth : monthCount stop.firstOfMonth = monthCount last + 1 := next
  have onward : (stop.firstOfMonth.number : Int) - last.number = 1 := by
    rw [Date.number_of_next_month nextMonth]
    simp [last, Date.firstOfMonth]
  exact ⟨last, Date.addDays?_eq_some.mpr (by omega), rfl⟩

theorem daysPastMonths_eq {date : Date} (moves : MovedTo start (completeMonths start stop) date) :
    date ≤ stop ∧ (stop.number : Int) - date.number = daysPastMonths start stop + (start.day - date.day) := by
  have month := moves.month_eq
  by_cases early : stop.day < start.day
  · have months := completeMonths_of_early early
    have next : monthCount stop = monthCount date + 1 := by omega
    have onward := Date.number_of_next_month next
    obtain ⟨last, found, length⟩ := exists_lastOfPrevious next
    have past : daysPastMonths start stop = (daysInMonth date.year date.month : Int) - start.day + stop.day := by
      simp only [daysPastMonths, if_neg (Nat.not_le_of_lt early), found, Option.map_some, Option.getD_some, length]
    exact ⟨Date.le_iff_monthCount.mpr (Or.inl (by omega)), by omega⟩
  · have months := completeMonths_of_not_early early
    have same : monthCount date = monthCount stop := by omega
    obtain ⟨sameYear, sameMonth⟩ := Date.monthCount_inj same
    have within := Date.number_of_same_month same
    have day := moves.day_eq
    -- The day of the stop shows that the month is long enough for the day of the start.
    have long := stop.isDate.day_le
    rw [← sameYear, ← sameMonth] at long
    have past : daysPastMonths start stop = (stop.day : Int) - start.day := by
      simp only [daysPastMonths, if_pos (Nat.le_of_not_lt early)]
    exact ⟨Date.le_iff_monthCount.mpr (Or.inr ⟨same, by omega⟩), by omega⟩

end Months

/-! ## Days after complete years -/

theorem daysInMonth_february (year : Nat) : daysInMonth year 2 = if isLeap year then 29 else 28 :=
  rfl

theorem february_of_lt {year other month : Nat} (bounds : 1 ≤ month ∧ month ≤ 12)
    (shorter : daysInMonth year month < daysInMonth other month) :
    month = 2 ∧ isLeap year = false ∧ isLeap other = true := by
  have table : ∀ leap others : Bool, ∀ index < 12,
      (Calendar.monthLengths leap).getD index 0 < (Calendar.monthLengths others).getD index 0 →
        index = 1 ∧ leap = false ∧ others = true := by decide
  obtain ⟨index, rfl⟩ : ∃ index, month = index + 1 := ⟨month - 1, by omega⟩
  rw [daysInMonth_succ, daysInMonth_succ] at shorter
  obtain ⟨rfl, common, leap⟩ := table _ _ index (by omega) shorter
  exact ⟨rfl, common, leap⟩

theorem number_of_next_february {date other : Date} (year : other.year = date.year + 1) (month : date.month = 2)
    (otherMonth : other.month = 2) (last : date.day = daysInMonth date.year 2) (day : other.day = 28) :
    (other.number : Int) - date.number = 365 := by
  have january : ∀ year, Calendar.daysBeforeMonth year 2 = 31 := fun _ => rfl
  have next := Calendar.daysBeforeYear_next date.isDate.year_pos
  rw [daysInMonth_february] at last
  rw [yearLength] at next
  rw [Date.number, Date.number, year, month, otherMonth, january, january, day, last]
  cases leap : isLeap date.year with
  | true =>
    rw [leap, if_pos rfl] at next
    rw [if_pos rfl]
    omega
  | false =>
    rw [leap, if_neg Bool.false_ne_true] at next
    rw [if_neg Bool.false_ne_true]
    omega

theorem MovedTo.year_eq {start date : Date} {years : Int} (moves : MovedTo start (12 * years) date) :
    (date.year : Int) = start.year + years ∧ date.month = start.month := by
  have own := month_bounds start.isDate
  have others := month_bounds date.isDate
  have month := moves.month_eq
  rw [monthCount, monthCount] at month
  omega

theorem exists_movedTo_years (start stop : Date) (years : Int) (some : 0 ≤ years)
    (within : (start.year : Int) + years ≤ stop.year) : ∃ date, MovedTo start (12 * years) date := by
  refine exists_movedTo ?_
  have own := month_bounds start.isDate
  have first := start.isDate.year_pos
  have last : stop.year ≤ 9999 := stop.isDate.year_le
  rw [InCalendar, monthCount, Int.fdiv_eq_ediv_of_nonneg _ (by decide)]
  omega

section Years

variable {start stop date : Date}

def Due (start stop : Date) : Prop :=
  start.month < stop.month ∨ start.month = stop.month ∧ start.day ≤ stop.day

theorem completeYears_cases (start stop : Date) :
    (Due start stop ∧ (completeMonths start stop).fdiv 12 = (stop.year : Int) - start.year) ∨
      ¬Due start stop ∧ (completeMonths start stop).fdiv 12 = (stop.year : Int) - start.year - 1 := by
  have own := month_bounds start.isDate
  have others := month_bounds stop.isDate
  rw [Int.fdiv_eq_ediv_of_nonneg _ (by decide), Due]
  simp only [completeMonths, monthCount]
  split
  · omega
  · omega

theorem daysPastYears_of_le (moves : MovedTo start (12 * ((stop.year : Int) - start.year)) date)
    (before : date ≤ stop) : daysPastYears start stop = .ok ((stop.number : Int) - date.number) := by
  have numbers := Date.le_iff_number.mp before
  have found := addMonths_eq_some.mpr moves
  rw [Int.mul_comm] at found
  rw [daysPastYears, found]
  change (if date.number > stop.number then _ else _ : Except Failure Int) = _
  rw [if_neg (by omega)]
  rfl

theorem daysPastYears_of_not_le (moves : MovedTo start (12 * ((stop.year : Int) - start.year)) date)
    (after : ¬date ≤ stop) {other : Date} (movesBefore : MovedTo start (12 * ((stop.year : Int) - start.year - 1)) other) :
    daysPastYears start stop = .ok ((stop.number : Int) - other.number) := by
  have numbers := mt Date.le_iff_number.mpr after
  have found := addMonths_eq_some.mpr moves
  have foundBefore := addMonths_eq_some.mpr movesBefore
  rw [Int.mul_comm] at found foundBefore
  rw [daysPastYears, found]
  change (if date.number > stop.number then _ else _ : Except Failure Int) = _
  rw [if_pos (by omega), foundBefore]
  rfl

/-- The day of the start comes again before its time only on a leap anniversary. -/
theorem leapAnniversary_iff (moves : MovedTo start (12 * ((stop.year : Int) - start.year)) date)
    (early : ¬Due start stop) : date ≤ stop ↔ LeapAnniversary start stop := by
  obtain ⟨year, month⟩ := moves.year_eq
  have sameYear : date.year = stop.year := by omega
  have day := moves.day_eq
  have bounds := month_bounds start.isDate
  have long := start.isDate.day_le
  have within := stop.isDate.day_le
  rw [Due] at early
  rw [sameYear, month] at day
  rw [Date.le_iff, sameYear, month, LeapAnniversary]
  constructor
  · intro before
    have sameMonth : start.month = stop.month := by omega
    rw [← sameMonth] at within ⊢
    obtain ⟨february, common, leap⟩ := february_of_lt bounds
      (show daysInMonth stop.year start.month < daysInMonth start.year start.month by omega)
    rw [february, daysInMonth_february, common, if_neg Bool.false_ne_true] at day within
    rw [february, daysInMonth_february, leap, if_pos rfl] at long
    exact ⟨⟨february, by omega⟩, february, by omega, common⟩
  · rintro ⟨⟨february, _⟩, otherFebruary, otherDay, common⟩
    rw [february, daysInMonth_february, common, if_neg Bool.false_ne_true] at day
    omega

theorem LeapAnniversary.numbers (leap : LeapAnniversary start stop)
    (moves : MovedTo start (12 * ((stop.year : Int) - start.year)) date) {other : Date}
    (movesBefore : MovedTo start (12 * ((stop.year : Int) - start.year - 1)) other) :
    (stop.number : Int) - date.number = 0 ∧ (stop.number : Int) - other.number = 365 := by
  obtain ⟨⟨february, startDay⟩, stopFebruary, stopDay, common⟩ := leap
  obtain ⟨year, month⟩ := moves.year_eq
  obtain ⟨yearBefore, monthBefore⟩ := movesBefore.year_eq
  constructor
  · have sameYear : date.year = stop.year := by omega
    have day := moves.day_eq
    rw [sameYear, month, february, daysInMonth_february, common, if_neg Bool.false_ne_true] at day
    have sameMonth : monthCount date = monthCount stop := by
      rw [monthCount, monthCount, sameYear, month, february, stopFebruary]
    rw [Date.number_of_same_month sameMonth]
    omega
  · have last : other.day = daysInMonth other.year 2 := by
      have own := movesBefore.day_eq
      have long := daysInMonth_february other.year
      rw [monthBefore, february] at own
      split at long
      · omega
      · omega
    exact number_of_next_february (by omega) (by omega) stopFebruary last stopDay

theorem exists_daysPastYears (ordered : start ≤ stop) :
    ∃ days date, daysPastYears start stop = .ok days ∧ MovedTo start (12 * (completeMonths start stop).fdiv 12) date ∧
      date ≤ stop ∧ (stop.number : Int) - date.number = days + (if LeapAnniversary start stop then 365 else 0) := by
  have order := Date.le_iff.mp ordered
  obtain ⟨anniversary, moves⟩ := exists_movedTo_years start stop (stop.year - start.year) (by omega) (by omega)
  rcases completeYears_cases start stop with ⟨due, complete⟩ | ⟨early, complete⟩
  · obtain ⟨year, month⟩ := moves.year_eq
    have day := moves.day_eq
    rw [Due] at due
    have before : anniversary ≤ stop := by
      rw [Date.le_iff]
      omega
    have ordinary : ¬LeapAnniversary start stop := by
      rw [LeapAnniversary]
      omega
    exact ⟨_, anniversary, daysPastYears_of_le moves before, by rwa [complete], before,
      by rw [if_neg ordinary, Int.add_zero]⟩
  · have years : start.year < stop.year := by
      rw [Due] at early
      omega
    obtain ⟨date, movesBefore⟩ := exists_movedTo_years start stop (stop.year - start.year - 1) (by omega) (by omega)
    have before : date ≤ stop := by
      have year := movesBefore.year_eq.1
      exact Date.le_iff.mpr (Or.inl (by omega))
    have moved : MovedTo start (12 * (completeMonths start stop).fdiv 12) date := by rwa [complete]
    by_cases again : anniversary ≤ stop
    · have leap := (leapAnniversary_iff moves early).mp again
      obtain ⟨same, whole⟩ := leap.numbers moves movesBefore
      exact ⟨_, date, daysPastYears_of_le moves again, moved, before, by rw [if_pos leap, same, whole]; rfl⟩
    · have ordinary := mt (leapAnniversary_iff moves early).mpr again
      exact ⟨_, date, daysPastYears_of_not_le moves again movesBefore, moved, before,
        by rw [if_neg ordinary, Int.add_zero]⟩

end Years

/-! ## The units together -/

def Units.plus (units : Units) (pastMonths pastYears : Int) : Units :=
  { units with
    daysPastMonths := units.daysPastMonths + pastMonths
    daysPastYears := units.daysPastYears + pastYears }

@[simp] theorem Units.plus_zero (units : Units) : units.plus 0 0 = units := by
  simp [plus]

section Denoting

variable {start stop : Value} {first last : Date} (starts : start.Denotes zone first) (stops : stop.Denotes zone last)
  (ordered : first ≤ last)

include starts stops ordered

theorem measures_of_distance {unit : String} {number : Int}
    (answer : distance first last unit.toList = .ok (.integer number)) : Measures zone start stop unit number := by
  intro spelled text written same
  have dates : datesOf zone [start, stop] = .ok (some [first, last]) := datesOf_of_denotes (.cons starts (.cons stops .nil))
  have numbers := Date.le_iff_number.mp ordered
  change (datesOf zone [start, stop] >>= _) = _
  rw [dates]
  change (if first.number > last.number then _ else _ : Except Failure Value) = _
  rw [if_neg (by omega)]
  change (spelled.toText >>= _) = _
  rw [written]
  change distance first last (Text.upper (Text.strip text)) = _
  rw [same, answer]

/-- The six units of the distance between two dates in order. Days are the days between them, months are twelve to a
year and the rest, and the start moved by the months, or by the years, is the days left over before the stop: all that
holds once the days left over after months are raised by those that the start loses in a short month, and the days left
over after years by 365 on a leap anniversary; so it holds as it is exactly if nothing is lost and there is no such
anniversary. -/
theorem units_decompose : ∃ (units : Units) (cut : Nat), Measured zone start stop units ∧ CutBy first units.months cut ∧
    Decomposes first last (units.plus cut (if LeapAnniversary first last then 365 else 0)) ∧
    (Decomposes first last units ↔ cut = 0 ∧ ¬LeapAnniversary first last) := by
  obtain ⟨moved, moves⟩ := exists_movedTo_completeMonths ordered
  obtain ⟨before, pastMonths⟩ := daysPastMonths_eq moves
  obtain ⟨days, yearly, past, movesYears, beforeYears, pastYears⟩ := exists_daysPastYears ordered
  have day := moves.day_eq
  let units : Units := ⟨(last.number : Int) - first.number, completeMonths first last,
    (completeMonths first last).fdiv 12, (completeMonths first last).fmod 12, daysPastMonths first last, days⟩
  have measured : Measured zone start stop units := by
    constructor
    · exact measures_of_distance starts stops ordered rfl
    · exact measures_of_distance starts stops ordered rfl
    · exact measures_of_distance starts stops ordered rfl
    · exact measures_of_distance starts stops ordered rfl
    · exact measures_of_distance starts stops ordered rfl
    · refine measures_of_distance starts stops ordered ?_
      change (daysPastYears first last >>= fun days => .ok (Value.integer days) : Except Failure Value) = _
      rw [past]
      rfl
  have whole : Decomposes first last
      (units.plus (first.day - moved.day : Nat) (if LeapAnniversary first last then 365 else 0)) := by
    refine ⟨Date.apart_iff.mpr ?_, ?_, ?_, leaves_of_number moves before ?_, leaves_of_number movesYears beforeYears ?_⟩
    · change (last.number : Int) = first.number + (last.number - first.number)
      omega
    · exact (Int.mul_fdiv_add_fmod _ 12).symm
    · have least := Int.fmod_nonneg_of_pos (completeMonths first last) (show (0 : Int) < 12 by decide)
      have most := Int.fmod_lt_of_pos (completeMonths first last) (show (0 : Int) < 12 by decide)
      exact ⟨least, Int.lt_add_one_iff.mp most⟩
    · change _ = daysPastMonths first last + _
      omega
    · exact pastYears
  refine ⟨units, first.day - moved.day, measured, ⟨moved, moves, by omega⟩, whole, fun decomposes => ⟨?_, ?_⟩, ?_⟩
  · have same : units.daysPastMonths = units.daysPastMonths + (first.day - moved.day : Nat) :=
      decomposes.pastMonths.unique whole.pastMonths
    omega
  · intro leap
    have same : units.daysPastYears = units.daysPastYears + (if LeapAnniversary first last then 365 else 0) :=
      decomposes.pastYears.unique whole.pastYears
    rw [if_pos leap] at same
    omega
  · rintro ⟨none, ordinary⟩
    rwa [none, if_neg ordinary, Int.natCast_zero, Units.plus_zero] at whole

end Denoting

theorem units_decompose_march :
    (Value.text "2020-01-15".toList).Denotes .utc ⟨2020, 1, 15, by decide⟩ ∧
      (Value.text "2024-03-10".toList).Denotes .utc ⟨2024, 3, 10, by decide⟩ ∧
      (⟨2020, 1, 15, by decide⟩ : Date) ≤ ⟨2024, 3, 10, by decide⟩ ∧
      ∃ units, Measured .utc (.text "2020-01-15".toList) (.text "2024-03-10".toList) units ∧
        Decomposes ⟨2020, 1, 15, by decide⟩ ⟨2024, 3, 10, by decide⟩ units := by
  have starts : (Value.text "2020-01-15".toList).Denotes .utc ⟨2020, 1, 15, by decide⟩ :=
    denotes_isoText (by decide) (by decide)
  have stops : (Value.text "2024-03-10".toList).Denotes .utc ⟨2024, 3, 10, by decide⟩ :=
    denotes_isoText (by decide) (by decide)
  have ordered : (⟨2020, 1, 15, by decide⟩ : Date) ≤ ⟨2024, 3, 10, by decide⟩ := by decide
  obtain ⟨units, cut, measured, ⟨date, moves, short⟩, _, decomposes⟩ := units_decompose starts stops ordered
  -- Every month has a fifteenth.
  have none : cut = 0 := by
    have bounds := month_bounds date.isDate
    have length := Calendar.daysInMonth_bounds date.year date.month bounds.1 bounds.2
    have day : date.day = min 15 (daysInMonth date.year date.month) := moves.day_eq
    change date.day + cut = 15 at short
    omega
  exact ⟨starts, stops, ordered, units, measured, decomposes.mpr ⟨none, by decide⟩⟩

theorem Measures.unique {start stop : Value} {unit : String} {number other : Int}
    (plain : Text.upper (Text.strip unit.toList) = unit.toList) (measures : Measures zone start stop unit number)
    (alsoMeasures : Measures zone start stop unit other) : number = other := by
  have answer := measures (.text unit.toList) unit.toList rfl plain
  rw [alsoMeasures (.text unit.toList) unit.toList rfl plain] at answer
  cases answer
  rfl

theorem units_decompose_short :
    (∀ units, Measured .utc (.text "2024-01-31".toList) (.text "2024-03-01".toList) units →
      ¬Decomposes ⟨2024, 1, 31, by decide⟩ ⟨2024, 3, 1, by decide⟩ units) ∧
    ∀ units, Measured .utc (.text "2020-02-29".toList) (.text "2021-02-28".toList) units →
      ¬Decomposes ⟨2020, 2, 29, by decide⟩ ⟨2021, 2, 28, by decide⟩ units := by
  constructor
  · intro units measured decomposes
    have starts : (Value.text "2024-01-31".toList).Denotes .utc ⟨2024, 1, 31, by decide⟩ :=
      denotes_isoText (by decide) (by decide)
    have stops : (Value.text "2024-03-01".toList).Denotes .utc ⟨2024, 3, 1, by decide⟩ :=
      denotes_isoText (by decide) (by decide)
    have past : Measures .utc (.text "2024-01-31".toList) (.text "2024-03-01".toList) "MD" (-1) :=
      measures_of_distance starts stops (by decide) rfl
    have same := measured.daysPastMonths.unique (by decide) past
    obtain ⟨_, _, _, some, _⟩ := decomposes.pastMonths
    omega
  · intro units measured decomposes
    have starts : (Value.text "2020-02-29".toList).Denotes .utc ⟨2020, 2, 29, by decide⟩ :=
      denotes_isoText (by decide) (by decide)
    have stops : (Value.text "2021-02-28".toList).Denotes .utc ⟨2021, 2, 28, by decide⟩ :=
      denotes_isoText (by decide) (by decide)
    have complete : Measures .utc (.text "2020-02-29".toList) (.text "2021-02-28".toList) "Y" 0 :=
      measures_of_distance starts stops (by decide) rfl
    have past : Measures .utc (.text "2020-02-29".toList) (.text "2021-02-28".toList) "YD" 0 :=
      measures_of_distance starts stops (by decide) rfl
    have years := measured.years.unique (by decide) complete
    have days := measured.daysPastYears.unique (by decide) past
    obtain ⟨date, moves, _, _, apart⟩ := decomposes.pastYears
    rw [days, Date.apart_iff, Int.add_zero] at apart
    have year := moves.year_eq.1
    rw [years, Date.number_inj (Int.ofNat_inj.mp apart).symm] at year
    exact absurd year (by decide)

end Worksheet.Builtin
