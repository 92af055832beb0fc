import Worksheet.Calendar.Iso
import Worksheet.Calendar.Pattern
import Worksheet.Value.Coercion

/-! Values read as moments of a zone. Numbers, and texts that are numbers, count milliseconds since the start of 1970;
other texts are read in ISO notation or else in the customary ones. -/

namespace Worksheet.Value

/-- Microseconds in the fraction of a count of seconds: the fraction times a million as a double, rounded
to the nearest integer, a half to the even one. -/
def fractionMicroseconds (seconds : Float) : Int :=
  let whole := Double.nearestInt (Double.truncate seconds) 1
  let scaled := (seconds - whole) * 1000000.0
  let magnitude : Int := Double.roundDiv (Double.numerator scaled).natAbs (Double.denominator scaled)
  if Double.isNegative scaled then -magnitude else magnitude

/-- Whether the calendar has what the clocks showed a day before and, if they were set back since, what they
show as much earlier. -/
def reachesBack (zone : Zone) (instant : Int) : Bool :=
  let dayBefore := zone.clock (instant - Iso.dayMicroseconds)
  let change := zone.clock instant - dayBefore - Iso.dayMicroseconds
  (DateTime.ofInstant? dayBefore).isSome
    && (change ≥ 0 || (DateTime.ofInstant? (zone.clock (instant + change))).isSome)

def momentOfSeconds? (zone : Zone) (seconds : Float) : Option DateTime :=
  let instant := DateTime.epoch + Double.truncate seconds * 1000000 + fractionMicroseconds seconds
  if reachesBack zone instant then DateTime.ofInstant? (zone.clock instant) else none

def momentOfMilliseconds (zone : Zone) (number : Number) : Except Failure (Option DateTime) := do
  if ← number.isFinite then
    match ← number.div (.integer 1000) with
    | .double seconds => return momentOfSeconds? zone seconds
    | .integer _ => return none
  else return none

/-- A final `Z` denotes universal time. -/
def withOffset (text : Text) : Text :=
  if text.getLast? = some 'Z' then text.dropLast ++ "+00:00".toList else text

def momentOfText (zone : Zone) (text : Text) : Except Failure (Option DateTime) := do
  let text := Text.strip text
  if text.isEmpty then return none
  match ← Number.readWhole text with
  | some milliseconds => momentOfMilliseconds zone milliseconds
  | none =>
    match ← Iso.read zone (withOffset text) with
    | some found => return some found
    | none => return DatePattern.readCustomary text

def toMoment (zone : Zone) : Value → Except Failure (Option DateTime)
  | moment value => .ok (some value)
  | date value => .ok (some (DateTime.ofDate value))
  | number value => momentOfMilliseconds zone value
  | text value => momentOfText zone value
  | _ => .ok none

end Worksheet.Value
