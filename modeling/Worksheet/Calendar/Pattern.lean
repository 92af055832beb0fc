import Worksheet.Calendar.Date
import Worksheet.Text.Basic

/-! Dates and times in the customary notations: month, day and year parted by slashes, with or without a time, year
first, or a time alone, which belongs to the first day of 1900. Digits of every script count. -/

namespace Worksheet

inductive DateField where
  | year
  | month
  | day
  | hour
  | minute
  | second

inductive PatternItem where
  | field (field : DateField)
  | literal (char : Char)
  | blanks

abbrev DatePattern := List PatternItem

namespace DatePattern

/-- A number that starts with one of the given digits and goes on with a digit up to `last`. -/
def twoDigits (first last : Nat) (text : Text) : Option (Nat × Text) :=
  match text with
  | tens :: ones :: rest =>
    match Text.digitValue? tens, Text.digitValue? ones with
    | some left, some right =>
      if tens.toNat = 48 + first ∧ right ≤ last then some (10 * left + right, rest) else none
    | _, _ => none
  | _ => none

def asciiTwoDigits (first least last : Nat) (text : Text) : Option (Nat × Text) :=
  match text with
  | tens :: ones :: rest =>
    if tens.toNat = 48 + first ∧ 48 + least ≤ ones.toNat ∧ ones.toNat ≤ 48 + last then
      some (10 * first + (ones.toNat - 48), rest)
    else none
  | _ => none

def asciiDigit (text : Text) : Option (Nat × Text) :=
  match text with
  | char :: rest => if '1' ≤ char ∧ char ≤ '9' then some (char.toNat - 48, rest) else none
  | [] => none

def anyDigit (text : Text) : Option (Nat × Text) :=
  match text with
  | char :: rest => (Text.digitValue? char).map fun value => (value, rest)
  | [] => none

def spacedDigit (text : Text) : Option (Nat × Text) :=
  match text with
  | ' ' :: rest => asciiDigit rest
  | _ => none

def fourDigits (text : Text) : Option (Nat × Text) :=
  let digits := text.take 4
  if digits.length = 4 ∧ digits.all Text.isDigit then some (Text.digitsValue digits, text.drop 4)
  else none

def readings (text : Text) : DateField → List (Nat × Text)
  | .year => (fourDigits text).toList
  | .month =>
    [asciiTwoDigits 1 0 2 text, asciiTwoDigits 0 1 9 text, asciiDigit text].filterMap id
  | .day =>
    [asciiTwoDigits 3 0 1 text, twoDigits 1 9 text, twoDigits 2 9 text, asciiTwoDigits 0 1 9 text,
      asciiDigit text, spacedDigit text].filterMap id
  | .hour =>
    [asciiTwoDigits 2 0 3 text, twoDigits 0 9 text, twoDigits 1 9 text, anyDigit text].filterMap id
  | .minute =>
    ((List.range 6).map (twoDigits · 9 text) ++ [anyDigit text]).filterMap id
  | .second =>
    (asciiTwoDigits 6 0 1 text :: (List.range 6).map (twoDigits · 9 text) ++ [anyDigit text]).filterMap id

structure Fields where
  year : Nat := 1900
  month : Nat := 1
  day : Nat := 1
  hour : Nat := 0
  minute : Nat := 0
  second : Nat := 0

def Fields.set (fields : Fields) (field : DateField) (value : Nat) : Fields :=
  match field with
  | .year => { fields with year := value }
  | .month => { fields with month := value }
  | .day => { fields with day := value }
  | .hour => { fields with hour := value }
  | .minute => { fields with minute := value }
  | .second => { fields with second := value }

def blankRests (text : Text) : List Text :=
  ((List.range (text.takeWhile Text.isBlank).length).map fun index => text.drop (index + 1)).reverse

def read (fields : Fields) : DatePattern → Text → Option (Fields × Text)
  | [], text => some (fields, text)
  | .literal char :: items, text =>
    match text with
    | first :: rest => if first = char then read fields items rest else none
    | [] => none
  | .blanks :: items, text => (blankRests text).findSome? (read fields items ·)
  | .field field :: items, text =>
    (readings text field).findSome? fun (value, rest) => read (fields.set field value) items rest

def Fields.moment? (fields : Fields) : Option DateTime := do
  let date ← Date.ofParts? fields.year fields.month fields.day
  DateTime.ofParts? date fields.hour fields.minute fields.second 0

def moment? (pattern : DatePattern) (text : Text) : Option DateTime :=
  match read {} pattern text with
  | some (fields, []) => fields.moment?
  | _ => none

def slashed (left middle right : DateField) : DatePattern :=
  [.field left, .literal '/', .field middle, .literal '/', .field right]

def minutes : DatePattern :=
  [.field .hour, .literal ':', .field .minute]

def seconds : DatePattern :=
  minutes ++ [.literal ':', .field .second]

def monthFirst : DatePattern := slashed .month .day .year

def customary : List DatePattern :=
  [monthFirst, monthFirst ++ .blanks :: seconds, monthFirst ++ .blanks :: minutes,
    slashed .year .month .day, seconds, minutes]

def readCustomary (text : Text) : Option DateTime :=
  customary.findSome? (moment? · text)

end DatePattern

end Worksheet
