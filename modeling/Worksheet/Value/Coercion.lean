import Worksheet.Number.Written
import Worksheet.Text.Case
import Worksheet.Value

/-! Values taken as numbers, texts and truth values. Text that does not begin with a number counts as zero in a
function and is not a number in arithmetic; nothing here is an error but a number of too many digits or beyond the
range of doubles. -/

namespace Worksheet.Value

def isNumber : Value → Bool
  | number _ => true
  | _ => false

def ofBool (value : Bool) : Number :=
  .integer (if value then 1 else 0)

def toNumber : Value → Except Failure Number
  | number value => .ok value
  | bool value => .ok (ofBool value)
  | text value => do
    match ← Number.readPrefix value with
    | some found => return found
    | none => return Number.zero
  | _ => .ok Number.zero

def toInteger (value : Value) : Except Failure Int := do
  match ← value.toNumber with
  | .integer whole => return whole
  | .double x => if x.isFinite then return Double.truncate x else throw .unreadable

def signedInfinity? (text : Text) : Option Number :=
  let (negative, word) := Literal.readSign text
  if word = Number.infinityWord then some (.double (Double.withSign negative Double.infinity)) else none

def toOperand : Value → Except Failure Number
  | number value => .ok value
  | bool value => .ok (ofBool value)
  | empty => .ok Number.zero
  | text value =>
    let value := Text.strip value
    if value.isEmpty then .ok Number.zero
    else
      match signedInfinity? value with
      | some found => .ok found
      | none => do
        match ← Number.readWhole value with
        | some found => return found
        | none => return .double Double.notANumber
  | _ => .ok (.double Double.notANumber)

def isNumeric : Value → Except Failure Bool
  | number _ => .ok true
  | text value => do return (← Number.readWhole value).isSome
  | _ => .ok false

def twoPlaces (number : Nat) : Text :=
  Text.zeroFill 2 (Text.ofNat number)

def dateText (date : Date) : Text :=
  Text.zeroFill 4 (Text.ofNat date.year) ++ '-' :: twoPlaces date.month ++ '-' :: twoPlaces date.day

def clockText (moment : DateTime) : Text :=
  twoPlaces moment.hour ++ ':' :: twoPlaces moment.minute ++ ':' :: twoPlaces moment.second
    ++ (if moment.microsecond = 0 then []
      else '.' :: Text.zeroFill 6 (Text.ofNat moment.microsecond))

def momentText (separator : Char) (moment : DateTime) : Text :=
  dateText moment.date ++ separator :: clockText moment

def boolText (value : Bool) : Text :=
  if value then "TRUE".toList else "FALSE".toList

mutual

/-- The text of a value; the values of a list are parted by commas. -/
def toText : Value → Except Failure Text
  | empty => .ok []
  | bool value => .ok (boolText value)
  | number value => value.display
  | text value => .ok value
  | error code => .ok code.text
  | list values => do return Text.join [','] (← toTexts values)
  | record fields => do return '{' :: Text.join ", ".toList (← fieldTexts fields) ++ ['}']
  | date value => .ok (dateText value)
  | moment value => .ok (momentText ' ' value)

def toTexts : List Value → Except Failure (List Text)
  | [] => .ok []
  | value :: rest => do
    let first ← value.toText
    return first :: (← toTexts rest)

def fieldTexts : List (Text × Value) → Except Failure (List Text)
  | [] => .ok []
  | (name, value) :: rest => do
    let first ← value.toText
    return (name ++ ": ".toList ++ first) :: (← fieldTexts rest)

end

def toTruth : Value → Except Failure Bool
  | bool value => .ok value
  | number value =>
    if value.isZero then .ok false
    else do return !(← value.isNaN)
  | text value =>
    let word := Text.upper (Text.strip value)
    if word = boolText true then .ok true
    else if word = boolText false then .ok false
    else .ok (!value.isEmpty)
  | empty => .ok false
  | error _ => .ok false
  | list values => .ok (!values.isEmpty)
  | record fields => .ok (!fields.isEmpty)
  | date _ => .ok true
  | moment _ => .ok true

end Worksheet.Value
