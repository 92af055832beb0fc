import Worksheet.Calendar.Date
import Worksheet.Failure
import Worksheet.Text.Utf8

/-! Dates and moments in ISO 8601 notation. A date is written with or without hyphens, as year, month and day or as year,
week and day of the week. Any one character parts it from the time, which has hours, minutes and seconds with or
without colons, a fraction, and an offset from universal time. A moment with an offset is read as the clocks of a zone
show it.

Positions count bytes of UTF-8, so that a character outside ASCII can only be the one between date and time. -/

namespace Worksheet

namespace Iso

/-- A byte as the character with that code. -/
abbrev Octets := List Char

def octets (text : Text) : Octets :=
  (Text.encode text).map fun byte => Char.ofNat byte.toNat

/-- The end of the text reads as the null character. -/
def nul : Char := Char.ofNat 0

def charAt (text : Octets) (index : Nat) : Char :=
  text.getD index nul

def readDigits : Nat → Nat → Octets → Option (Nat × Octets)
  | 0, value, text => some (value, text)
  | count + 1, value, char :: rest =>
    if char.isDigit then readDigits count (10 * value + (char.toNat - 48)) rest else none
  | _ + 1, _, [] => none

/-- Where the date ends, judged by the fifth and sixth character, and in the compact week notation by the
number of digits that follow. -/
def dateLength (text : Octets) : Option Nat :=
  let length := text.length
  if length = 7 then some 7
  else if charAt text 4 = '-' then
    if charAt text 5 = 'W' then
      if length < 8 then none
      else if length > 8 ∧ charAt text 8 = '-' then
        if length = 9 then none
        else if length > 10 ∧ (charAt text 10).isDigit then some 8
        else some 10
      else some 8
    else some 10
  else if charAt text 4 = 'W' then
    let stop := 7 + ((text.drop 7).takeWhile Char.isDigit).length
    if stop < 9 then some stop else if stop % 2 = 0 then some 7 else some 8
  else some 8

/-- The day number of the Monday with which the first week of a year begins: that week has the first
Thursday of the year. -/
def firstMonday (year : Nat) : Int :=
  let first : Int := Calendar.daysBeforeYear year + 1
  let weekday := Int.fmod (first + 6) 7
  if weekday > 3 then first - weekday + 7 else first - weekday

def hasWeek (year week : Nat) : Bool :=
  let weekday := (Calendar.daysBeforeYear year + 7) % 7
  (1 ≤ week && week ≤ 52)
    || (week == 53 && (weekday == 3 || (weekday == 2 && Calendar.isLeap year)))

def ofWeek? (year week day : Nat) : Option Date :=
  if 1 ≤ year ∧ hasWeek year week ∧ 1 ≤ day ∧ day ≤ 7 then
    Date.ofNumber? (firstMonday year + ((week : Int) - 1) * 7 + day - 1)
  else none

def readHyphen (wanted : Bool) (text : Octets) : Option Octets :=
  if wanted then
    match text with
    | '-' :: rest => some rest
    | _ => none
  else some text

def readDate (length : Nat) (text : Octets) : Option Date := do
  let (year, rest) ← readDigits 4 0 text
  let hyphens := rest.head? == some '-'
  let rest := if hyphens then rest.drop 1 else rest
  if rest.head? = some 'W' then
    let (week, rest) ← readDigits 2 0 (rest.drop 1)
    if text.length - rest.length < length then
      let rest ← readHyphen hyphens rest
      let (day, _) ← readDigits 1 0 rest
      ofWeek? year week day
    else ofWeek? year week 1
  else
    let (month, rest) ← readDigits 2 0 rest
    let rest ← readHyphen hyphens rest
    let (day, _) ← readDigits 2 0 rest
    Date.ofParts? year month day

structure Clock where
  hour : Nat
  minute : Nat
  second : Nat
  microsecond : Nat

def Clock.ofList (parts : List Nat) (microsecond : Nat) : Clock :=
  ⟨parts.getD 0 0, parts.getD 1 0, parts.getD 2 0, microsecond⟩

/-- The fraction of a second: six digits count, further digits are passed over. The flag says that
something follows. -/
def readFraction (text : Octets) (length : Nat) : Option (Nat × Bool) := do
  let digits := min length 6
  let (value, rest) ← readDigits digits 0 text
  let tail := rest.dropWhile Char.isDigit
  return (value * Nat.pow 10 (6 - digits), charAt tail 0 != nul)

/-- Up to three numbers of two digits and a fraction within the first `length` characters of the text.
`missing` counts the numbers still possible, `colons` says whether the first two are parted by a colon.
The flag says that something follows. -/
def readClock (missing : Nat) (colons : Option Bool) (parts : List Nat) (text : Octets) (length : Nat) :
    Option (Clock × Bool) :=
  match missing with
  | 0 => (readFraction text length).map fun (value, more) => (Clock.ofList parts value, more)
  | missing + 1 =>
    match readDigits 2 0 text with
    | none => none
    | some (value, rest) =>
      let parts := parts ++ [value]
      let next := charAt rest 0
      let colons := colons.getD (next == ':')
      if length ≤ 3 then some (Clock.ofList parts 0, next != nul)
      else if colons && next == ':' then
        readClock missing (some colons) parts (rest.drop 1) (length - 3)
      else if next = '.' ∨ next = ',' then
        (readFraction (rest.drop 1) (length - 3)).map fun (value, more) =>
          (Clock.ofList parts value, more)
      else if !colons then readClock missing (some colons) parts rest (length - 2)
      else none

def startsOffset (char : Char) : Bool :=
  char == '+' || char == '-' || char == 'Z'

def readTime (text : Octets) : Option (Clock × Option Int) :=
  match text with
  | [] => none
  | _ =>
    let length := (text.takeWhile (!startsOffset ·)).length
    match readClock 3 none [] text length with
    | none => none
    | some (clock, more) =>
      match text.drop length with
      | [] => if more then none else some (clock, none)
      | 'Z' :: rest => if charAt rest 0 = nul then some (clock, some 0) else none
      | sign :: rest =>
        match readClock 3 none [] rest rest.length with
        | none => none
        | some (offset, more) =>
          if more then none
          else
            let seconds : Int := offset.hour * 3600 + offset.minute * 60 + offset.second
            if seconds = 0 then some (clock, some 0)
            else
              let total := seconds * 1000000 + offset.microsecond
              some (clock, some (if sign = '-' then -total else total))

def dayMicroseconds : Int := 86400000000

/-- What the clocks of the zone show when those of another place, so far ahead of universal time, show the
moment. The calendar has to reach the universal time between the two as well. -/
def shift (zone : Zone) (moment : DateTime) (offset : Int) : Except Failure DateTime :=
  match DateTime.ofInstant? (moment.instant - offset) with
  | none => .error .outOfRange
  | some universal =>
    match DateTime.ofInstant? (zone.clock universal.instant) with
    | some shifted => .ok shifted
    | none => .error .outOfRange

/-- None when the text is no moment in this notation; a failure when it is one that lies outside the calendar
in universal time or in the zone. -/
def read (zone : Zone) (text : Text) : Except Failure (Option DateTime) :=
  let bytes := octets text
  if text.length < 7 then .ok none
  else
    match dateLength bytes with
    | none => .ok none
    | some length =>
      match readDate length bytes with
      | none => .ok none
      | some date =>
        if bytes.length ≤ length then .ok (some (DateTime.ofDate date))
        else
          let width := (Text.encodeChar (((text.drop length).head?).getD nul)).length
          match readTime (bytes.drop (length + width)) with
          | none => .ok none
          | some (clock, offset) =>
            match DateTime.ofParts? date clock.hour clock.minute clock.second clock.microsecond with
            | none => .ok none
            | some moment =>
              match offset with
              | none => .ok (some moment)
              | some offset =>
                if offset.natAbs < dayMicroseconds then (shift zone moment offset).map some else .ok none

end Iso

end Worksheet
