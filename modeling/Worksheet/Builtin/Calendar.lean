import Worksheet.Builtin.Basic
import Worksheet.Value.Moment

/-! Functions of dates and times. Dates are handed on as text, year first, and times as hours, minutes and seconds
parted by colons; an argument that denotes no moment of the zone makes the result a value error. -/

namespace Worksheet.Builtin

/-- Year, month and day; the year is not filled up. -/
def isoText (date : Date) : Text :=
  Text.ofNat date.year ++ '-' :: Value.twoPlaces date.month ++ '-' :: Value.twoPlaces date.day

def momentAt (zone : Zone) (arguments : List Value) (index : Nat) : Except Failure (Option DateTime) :=
  (argument arguments index).toMoment zone

def datesOf (zone : Zone) : List Value → Except Failure (Option (List Date))
  | [] => .ok (some [])
  | value :: rest => do
    match ← value.toMoment zone with
    | none => return none
    | some moment => return (← datesOf zone rest).map (moment.date :: ·)

def yearLimit : Int := 2147483648

/-- Whole months are counted from the first of year zero. -/
def monthCount (date : Date) : Int :=
  (date.year : Int) * 12 + (date.month - 1)

def inMonth? (count : Int) (day : Nat) : Option Date :=
  let year := Int.fdiv count 12
  let month := (Int.fmod count 12).toNat + 1
  if year < 1 then none
  else Date.ofParts? year month (min day (Calendar.daysInMonth year.toNat month) : Nat)

def addMonths (date : Date) (months : Int) : Except Failure (Option Date) :=
  let count := monthCount date + months
  let year := Int.fdiv count 12
  if year ≥ yearLimit ∨ year < -yearLimit then .error .outOfRange
  else .ok (inMonth? count date.day)

def now (ambient : Ambient) (arguments : List Value) : Except Failure Value := do
  require "NOW" arguments 0 0
  return .integer ambient.epochMilliseconds

def today (ambient : Ambient) (arguments : List Value) : Except Failure Value := do
  require "TODAY" arguments 0 0
  match DateTime.ofInstant? (ambient.zone.clock (DateTime.epoch + ambient.epochMilliseconds * 1000)) with
  | some moment => return .text (isoText moment.date)
  | none => throw .outOfRange

def dateValue : Option Date → Value
  | some date => .text (isoText date)
  | none => .error .value

def rolledDate? (year month day : Int) : Option Date := do
  let first ← Date.ofParts? (year + Int.fdiv (month - 1) 12) (Int.fmod (month - 1) 12 + 1) 1
  first.addDays? (day - 1)

def dateOfParts (arguments : List Value) : Except Failure Value := do
  require "DATE" arguments 3 3
  let year ← (argument arguments 0).toInteger
  let month ← (argument arguments 1).toInteger
  let day ← (argument arguments 2).toInteger
  return dateValue (rolledDate? year month day)

def timeOfParts (arguments : List Value) : Except Failure Value := do
  require "TIME" arguments 3 3
  let hours ← (argument arguments 0).toInteger
  let minutes ← (argument arguments 1).toInteger
  let seconds ← (argument arguments 2).toInteger
  let total := hours * 3600 + minutes * 60 + seconds
  if total < 0 then return .error .value
  else
    let rest := (total % 86400).toNat
    return .text (Value.twoPlaces (rest / 3600) ++ ':' :: Value.twoPlaces (rest % 3600 / 60)
      ++ ':' :: Value.twoPlaces (rest % 60))

def momentPart (name : String) (part : DateTime → Nat) (zone : Zone) (arguments : List Value) :
    Except Failure Value := do
  require name arguments 1 1
  match ← momentAt zone arguments 0 with
  | some moment => return .ofNat (part moment)
  | none => return .error .value

def numbering (arguments : List Value) : Except Failure Int :=
  if arguments.length = 2 then (argument arguments 1).toInteger else .ok 1

def weekdayNumber (zone : Zone) (arguments : List Value) : Except Failure Value := do
  require "WEEKDAY" arguments 1 2
  match ← momentAt zone arguments 0 with
  | none => return .error .value
  | some moment =>
    let kind ← numbering arguments
    let weekday := moment.date.weekday
    if kind = 1 then return .ofNat ((weekday + 1) % 7 + 1)
    else if kind = 2 then return .ofNat (weekday + 1)
    else if kind = 3 then return .ofNat weekday
    else return .error .value

/-- The first of January lies in week one, and weeks begin on Sunday or on Monday. -/
def weekNumber (zone : Zone) (arguments : List Value) : Except Failure Value := do
  require "WEEKNUM" arguments 1 2
  match ← momentAt zone arguments 0 with
  | none => return .error .value
  | some moment =>
    let kind ← numbering arguments
    let first := moment.date.firstOfYear
    let passed := moment.date.number - first.number
    if kind = 1 then return .ofNat ((passed + (first.weekday + 1) % 7) / 7 + 1)
    else if kind = 2 then return .ofNat ((passed + first.weekday) / 7 + 1)
    else return .error .value

def completeMonths (start stop : Date) : Int :=
  let months := monthCount stop - monthCount start
  if stop.day < start.day then months - 1 else months

def daysPastMonths (start stop : Date) : Int :=
  if start.day ≤ stop.day then (stop.day : Int) - start.day
  else
    let lastOfPrevious := (stop.firstOfMonth.addDays? (-1)).map (·.day)
    (lastOfPrevious.getD 0 : Int) - start.day + stop.day

def daysPastYears (start stop : Date) : Except Failure Int := do
  let years : Int := (stop.year : Int) - start.year
  let anchor := (← addMonths start (years * 12)).getD start
  let anchor ←
    if anchor.number > stop.number then (do return (← addMonths start ((years - 1) * 12)).getD start)
    else pure anchor
  return (stop.number : Int) - anchor.number

/-- The distance between two dates in a unit: days, complete months or years, or what is left of the
distance after complete years or months. -/
def distance (start stop : Date) (unit : Text) : Except Failure Value := do
  let months := completeMonths start stop
  if unit = ['D'] then return .integer ((stop.number : Int) - start.number)
  else if unit = ['M'] then return .integer months
  else if unit = ['Y'] then return .integer (Int.fdiv months 12)
  else if unit = ['Y', 'M'] then return .integer (Int.fmod months 12)
  else if unit = ['M', 'D'] then return .integer (daysPastMonths start stop)
  else if unit = ['Y', 'D'] then return .integer (← daysPastYears start stop)
  else return .error .value

def dateDifference (zone : Zone) (arguments : List Value) : Except Failure Value := do
  require "DATEDIF" arguments 3 3
  match ← datesOf zone (arguments.take 2) with
  | some [start, stop] =>
    if start.number > stop.number then return .error .value
    else distance start stop (Text.upper (Text.strip (← (argument arguments 2).toText)))
  | _ => return .error .value

/-- The date so many months on; none also when the number of months cannot be read. -/
def shifted (date : Date) (months : Value) : Except Failure (Option Date) :=
  match months.toInteger with
  | .error .unreadable => .ok none
  | .error failure => .error failure
  | .ok count => addMonths date count

def shiftMonths (zone : Zone) (arguments : List Value) : Except Failure Value := do
  require "EDATE" arguments 2 2
  match ← datesOf zone (arguments.take 1) with
  | some [start] => return dateValue (← shifted start (argument arguments 1))
  | _ => return .error .value

def lastOfMonth? (date : Date) : Option Date :=
  Date.ofParts? date.year date.month (Calendar.daysInMonth date.year date.month)

def endOfMonth (zone : Zone) (arguments : List Value) : Except Failure Value := do
  require "EOMONTH" arguments 2 2
  match ← datesOf zone (arguments.take 1) with
  | some [start] =>
    return dateValue ((← shifted start.firstOfMonth (argument arguments 1)).bind lastOfMonth?)
  | _ => return .error .value

def weekdayOfNumber (number : Nat) : Nat :=
  (number + 6) % 7

def workdays (first last : Nat) (holidays : List Date) : Nat :=
  (List.range' first (last + 1 - first)).countP fun number =>
    weekdayOfNumber number < 5 && !holidays.any (·.number == number)

/-- The day number of the last day of the calendar; counting has to step past the last day. -/
def lastDay : Nat := 3652059

def networkDays (zone : Zone) (arguments : List Value) : Except Failure Value := do
  requireAtLeast "NETWORKDAYS" arguments 2
  match ← datesOf zone (arguments.take 2) with
  | some [start, stop] =>
    match ← datesOf zone ((arguments.drop 2).filter (!·.isEmpty)) with
    | none => return .error .value
    | some holidays =>
      let first := min start.number stop.number
      let last := max start.number stop.number
      if last = lastDay then throw .outOfRange
      let count : Int := workdays first last holidays
      return .integer (if stop.number < start.number then -count else count)
  | _ => return .error .value

def dates : List Builtin :=
  [changing "NOW" now,
   changing "TODAY" today,
   plain "DATE" dateOfParts,
   plain "TIME" timeOfParts,
   ofDates "YEAR" (momentPart "YEAR" (·.date.year)),
   ofDates "MONTH" (momentPart "MONTH" (·.date.month)),
   ofDates "DAY" (momentPart "DAY" (·.date.day)),
   ofDates "HOUR" (momentPart "HOUR" (·.hour)),
   ofDates "MINUTE" (momentPart "MINUTE" (·.minute)),
   ofDates "SECOND" (momentPart "SECOND" (·.second)),
   ofDates "WEEKDAY" weekdayNumber,
   ofDates "WEEKNUM" weekNumber,
   ofDates "DATEDIF" dateDifference,
   ofDates "EDATE" shiftMonths,
   ofDates "EOMONTH" endOfMonth,
   ofDates "NETWORKDAYS" networkDays]

end Worksheet.Builtin
