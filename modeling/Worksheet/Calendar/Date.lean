/-! The Gregorian calendar of the years 1 to 9999. Every date has a day number: the number of days from the first day
of year 1 to it, that day included. Day numbers and dates determine each other. -/

namespace Worksheet

namespace Calendar

def isLeap (year : Nat) : Bool :=
  year % 4 == 0 && (year % 100 != 0 || year % 400 == 0)

def monthLengths (leap : Bool) : List Nat :=
  [31, if leap then 29 else 28, 31, 30, 31, 30, 31, 31, 30, 31, 30, 31]

def daysInMonth (year month : Nat) : Nat :=
  if month = 0 then 0 else (monthLengths (isLeap year)).getD (month - 1) 0

def daysBeforeYear (year : Nat) : Nat :=
  365 * (year - 1) + (year - 1) / 4 - (year - 1) / 100 + (year - 1) / 400

def daysBeforeMonth (year month : Nat) : Nat :=
  ((monthLengths (isLeap year)).take (month - 1)).foldl (· + ·) 0

def lastYear : Nat := 9999

structure IsDate (year month day : Nat) : Prop where
  year_pos : 1 ≤ year
  year_le : year ≤ lastYear
  day_pos : 1 ≤ day
  day_le : day ≤ daysInMonth year month

instance (year month day : Nat) : Decidable (IsDate year month day) :=
  decidable_of_iff (1 ≤ year ∧ year ≤ lastYear ∧ 1 ≤ day ∧ day ≤ daysInMonth year month)
    ⟨fun ⟨h1, h2, h3, h4⟩ => ⟨h1, h2, h3, h4⟩, fun ⟨h1, h2, h3, h4⟩ => ⟨h1, h2, h3, h4⟩⟩

end Calendar

open Calendar

structure Date where
  year : Nat
  month : Nat
  day : Nat
  isDate : IsDate year month day
  deriving DecidableEq

namespace Date

def ofParts? (year month day : Int) : Option Date :=
  if 0 ≤ year ∧ 0 ≤ month ∧ 0 ≤ day then
    if valid : IsDate year.toNat month.toNat day.toNat then
      some ⟨year.toNat, month.toNat, day.toNat, valid⟩
    else none
  else none

def number (date : Date) : Nat :=
  daysBeforeYear date.year + daysBeforeMonth date.year date.month + date.day

/-- The year that holds a positive day number: an estimate by the mean length of a year, which is off by
one at most. -/
def yearOfNumber (number : Nat) : Nat :=
  let guess := (number - 1) * 400 / 146097 + 1
  if number ≤ daysBeforeYear guess then guess - 1
  else if daysBeforeYear (guess + 1) < number then guess + 1
  else guess

/-- The month and the day in it that a day of the year falls on, counting months from `month`. -/
def splitDay : List Nat → Nat → Nat → Nat × Nat
  | length :: rest, month, day =>
    if day ≤ length then (month, day) else splitDay rest (month + 1) (day - length)
  | [], month, day => (month, day)

def ofNumber? (number : Int) : Option Date :=
  if number < 1 then none
  else
    let year := yearOfNumber number.toNat
    let (month, day) := splitDay (monthLengths (isLeap year)) 1 (number.toNat - daysBeforeYear year)
    ofParts? year month day

def addDays? (date : Date) (days : Int) : Option Date :=
  ofNumber? (date.number + days)

def weekday (date : Date) : Nat :=
  (date.number + 6) % 7

def firstOfYear (date : Date) : Date where
  year := date.year
  month := 1
  day := 1
  isDate := ⟨date.isDate.year_pos, date.isDate.year_le, Nat.le_refl 1, by simp [daysInMonth, monthLengths]⟩

def firstOfMonth (date : Date) : Date where
  year := date.year
  month := date.month
  day := 1
  isDate := ⟨date.isDate.year_pos, date.isDate.year_le, Nat.le_refl 1,
    Nat.le_trans date.isDate.day_pos date.isDate.day_le⟩

end Date

structure DateTime where
  date : Date
  hour : Nat
  minute : Nat
  second : Nat
  microsecond : Nat
  hour_lt : hour < 24
  minute_lt : minute < 60
  second_lt : second < 60
  microsecond_lt : microsecond < 1000000
  deriving DecidableEq

namespace DateTime

def ofDate (date : Date) : DateTime :=
  ⟨date, 0, 0, 0, 0, by decide, by decide, by decide, by decide⟩

def ofParts? (date : Date) (hour minute second microsecond : Nat) : Option DateTime :=
  if valid : hour < 24 ∧ minute < 60 ∧ second < 60 ∧ microsecond < 1000000 then
    some ⟨date, hour, minute, second, microsecond, valid.1, valid.2.1, valid.2.2.1, valid.2.2.2⟩
  else none

def seconds (moment : DateTime) : Nat :=
  moment.date.number * 86400 + moment.hour * 3600 + moment.minute * 60 + moment.second

def ofSeconds? (seconds : Int) (microsecond : Nat) : Option DateTime :=
  match Date.ofNumber? (Int.fdiv seconds 86400) with
  | none => none
  | some date =>
    let rest := (Int.fmod seconds 86400).toNat
    ofParts? date (rest / 3600) (rest % 3600 / 60) (rest % 60) microsecond

/-- Microseconds since the start of the day before the first of the calendar. -/
def instant (moment : DateTime) : Int :=
  moment.seconds * 1000000 + moment.microsecond

def ofInstant? (instant : Int) : Option DateTime :=
  ofSeconds? (Int.fdiv instant 1000000) (Int.fmod instant 1000000).toNat

def epoch : Int := 719163 * 86400000000

end DateTime

/-- How many seconds the clocks of a place are ahead of universal time, at each second since the start of 1970. -/
structure Zone where
  ahead : Int → Int
  ahead_lt : ∀ second, (ahead second).natAbs < 86400

namespace Zone

def utc : Zone := ⟨fun _ => 0, fun _ => by decide⟩

def clock (zone : Zone) (instant : Int) : Int :=
  instant + zone.ahead (Int.fdiv (instant - DateTime.epoch) 1000000) * 1000000

end Zone

end Worksheet
