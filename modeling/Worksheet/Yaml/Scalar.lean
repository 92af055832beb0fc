import Worksheet.Number.Literal
import Worksheet.Text.Basic
import Worksheet.Text.Hex
import Worksheet.Value

/-! The values of plain scalars in YAML 1.1. A scalar is missing, a truth value, a double, an integer, a date or a
moment if it has the form of one, and a text otherwise. Underscores among digits do not count, and numbers may be
written in base 2, 8, 16 or, with colons, 60. -/

namespace Worksheet.Yaml.Scalar

def missingWords : List String := ["", "~", "null", "Null", "NULL"]

def trueWords : List String :=
  ["yes", "Yes", "YES", "true", "True", "TRUE", "on", "On", "ON"]

def falseWords : List String :=
  ["no", "No", "NO", "false", "False", "FALSE", "off", "Off", "OFF"]

def isOneOf (words : List String) (text : Text) : Bool :=
  words.any (·.toList == text)

/-- Marks that are no values: of the value of a mapping as a whole, and of fields to be merged. -/
def reserved : List String := ["=", "<<"]

def withoutUnderscores (text : Text) : Text :=
  text.filter (· != '_')

/-- A row of characters of a kind among which underscores may stand, not empty. -/
def isRow (belongs : Char → Bool) (text : Text) : Bool :=
  !text.isEmpty && text.all fun char => belongs char || char == '_'

def isBinary (char : Char) : Bool := char == '0' || char == '1'

def isOctal (char : Char) : Bool := '0' ≤ char && char ≤ '7'

def isHex (char : Char) : Bool := (Text.hexValue? char).isSome

def isDecimal (text : Text) : Bool :=
  text.head?.any Char.isDigit && isRow Char.isDigit text

def isSixtieth : Text → Bool
  | [ones] => ones.isDigit
  | [tens, ones] => '0' ≤ tens && tens ≤ '5' && ones.isDigit
  | _ => false

def digitsIn (base : Nat) (digits : Text) : Nat :=
  digits.foldl (fun value char => base * value + (Text.hexValue? char).getD 0) 0

def inSixtieths (places : List Nat) : Nat :=
  places.foldl (fun value place => 60 * value + place) 0

def prefixed (base : Nat) (digits : Text) : Except Failure Nat :=
  let digits := withoutUnderscores digits
  if digits.isEmpty then .error .unreadable else .ok (digitsIn base digits)

def natural? (text : Text) : Option (Except Failure Nat) :=
  match text with
  | '0' :: 'b' :: digits => if isRow isBinary digits then some (prefixed 2 digits) else none
  | '0' :: 'x' :: digits => if isRow isHex digits then some (prefixed 16 digits) else none
  | ['0'] => some (.ok 0)
  | '0' :: digits => if isRow isOctal digits then some (.ok (digitsIn 8 (withoutUnderscores digits))) else none
  | text =>
    match Text.splitOn [':'] text with
    | [digits] => if isDecimal digits then some (Text.readNat (withoutUnderscores digits)) else none
    | first :: places =>
      if isDecimal first && places.all isSixtieth then
        some (do
          let first ← Text.readNat (withoutUnderscores first)
          return inSixtieths (first :: places.map Text.digitsValue))
      else none
    | [] => none

def integer? (text : Text) : Option (Except Failure Value) :=
  let (negative, digits) := Literal.readSign text
  (natural? digits).map fun (found : Except Failure Nat) => do
    let magnitude ← found
    return .integer (if negative then -(magnitude : Int) else magnitude)

/-- A double with a point, of which the exponent, if any, has a sign. Digits have to stand before the point
where `needsWhole` asks for them, and otherwise on one of its sides. -/
def decimal? (needsWhole : Bool) (text : Text) : Option Literal :=
  let whole := text.takeWhile (· != '.')
  match text.dropWhile (· != '.') with
  | '.' :: rest =>
    let fraction := rest.takeWhile fun char => char.isDigit || char == '_'
    let exponent? : Option (Option (Bool × Text)) :=
      match rest.dropWhile fun char => char.isDigit || char == '_' with
      | [] => some none
      | mark :: sign :: digits =>
        if (mark = 'e' ∨ mark = 'E') ∧ (sign = '+' ∨ sign = '-') ∧ !digits.isEmpty
            ∧ digits.all Char.isDigit then
          some (some (sign == '-', digits))
        else none
      | _ => none
    let isFormed := if whole.isEmpty then !needsWhole && fraction.head?.any Char.isDigit else isDecimal whole
    if isFormed then
      exponent?.map fun exponent =>
        ⟨false, withoutUnderscores whole, some (withoutUnderscores fraction), exponent⟩
    else none
  | _ => none

/-- Adds places in base 60, the least first, to a double; `base` is the weight of the next place. -/
def addSixtieths (sum : Number) (base : Int) : List Nat → Except Failure Number
  | [] => .ok sum
  | place :: rest => do
    let part ← (Number.double (Literal.nearestDecimal place 0)).mul (.integer base)
    addSixtieths (← sum.add part) (base * 60) rest

def sixtiethDouble? (text : Text) : Option (Except Failure Number) :=
  match (Text.splitOn [':'] text).reverse with
  | last :: place :: others =>
    let whole := last.takeWhile (· != '.')
    let places := (place :: others).dropLast
    let first := (place :: others).getLastD []
    match decimal? true last with
    | some literal =>
      if isDecimal first ∧ places.all isSixtieth ∧ isSixtieth whole ∧ literal.exponent.isNone then
        some (do
          addSixtieths (← literal.value) 60 ((places ++ [withoutUnderscores first]).map Text.digitsValue))
      else none
    | none => none
  | _ => none

def isInfinityWord (text : Text) : Bool :=
  isOneOf [".inf", ".Inf", ".INF"] text

def double? (text : Text) : Option (Except Failure Value) :=
  let (negative, unsigned) := Literal.readSign text
  let signed (number : Number) : Value := .number (if negative then number.negate else number)
  if isOneOf [".nan", ".NaN", ".NAN"] text then some (.ok (.double Double.notANumber))
  else if isInfinityWord unsigned then some (.ok (signed (.double Double.infinity)))
  else
    match decimal? (unsigned.length != text.length) unsigned with
    | some literal => some (literal.value.map signed)
    | none => (sixtiethDouble? unsigned).map fun number => number.map signed

def digitsBetween (least most : Nat) (text : Text) : Option (Nat × Text) :=
  let digits := (text.take most).takeWhile Char.isDigit
  if digits.length < least then none else some (Text.digitsValue digits, text.drop digits.length)

def afterMark (mark : Char) : Text → Option Text
  | char :: rest => if char = mark then some rest else none
  | [] => none

def dateParts (isStrict : Bool) (text : Text) : Option ((Nat × Nat × Nat) × Text) := do
  let least := if isStrict then 2 else 1
  let (year, rest) ← digitsBetween 4 4 text
  let (month, rest) ← digitsBetween least 2 (← afterMark '-' rest)
  let (day, rest) ← digitsBetween least 2 (← afterMark '-' rest)
  return ((year, month, day), rest)

def isGap (char : Char) : Bool :=
  char == ' ' || char == '\t'

def afterDate : Text → Option Text
  | [] => none
  | char :: rest =>
    if char = 'T' ∨ char = 't' then some rest
    else if isGap char then some (rest.dropWhile isGap)
    else none

/-- The first six digits of a fraction of a second as microseconds. -/
def microseconds (fraction : Text) : Nat :=
  let digits := fraction.take 6
  Text.digitsValue digits * Nat.pow 10 (6 - digits.length)

def isZone (text : Text) : Bool :=
  match text.dropWhile isGap with
  | [] => text.isEmpty
  | ['Z'] => true
  | sign :: rest =>
    (sign == '+' || sign == '-')
      && (match digitsBetween 1 2 rest with
        | some (_, []) => true
        | some (_, ':' :: minutes) => minutes.length == 2 && minutes.all Char.isDigit
        | _ => false)

def clockParts (text : Text) : Option ((Nat × Nat × Nat × Nat) × Text) := do
  let (hour, rest) ← digitsBetween 1 2 text
  let (minute, rest) ← digitsBetween 2 2 (← afterMark ':' rest)
  let (second, rest) ← digitsBetween 2 2 (← afterMark ':' rest)
  match rest with
  | '.' :: rest =>
    return ((hour, minute, second, microseconds (rest.takeWhile Char.isDigit)), rest.dropWhile Char.isDigit)
  | rest => return ((hour, minute, second, 0), rest)

/-- A date, or a moment in its own time zone; one that the calendar does not have cannot be read. -/
def dated? (text : Text) : Option (Except Failure Value) :=
  match dateParts true text with
  | some ((year, month, day), []) =>
    some (match Date.ofParts? year month day with
      | some date => .ok (.date date)
      | none => .error .unreadable)
  | _ => do
    let ((year, month, day), rest) ← dateParts false text
    let ((hour, minute, second, fraction), rest) ← clockParts (← afterDate rest)
    if isZone rest then
      return (match (Date.ofParts? year month day).bind (DateTime.ofParts? · hour minute second fraction) with
        | some moment => .ok (.moment moment)
        | none => .error .unreadable)
    else none

def value (text : Text) : Except Failure Value :=
  if isOneOf missingWords text then .ok .empty
  else if isOneOf trueWords text then .ok (.bool true)
  else if isOneOf falseWords text then .ok (.bool false)
  else if isOneOf reserved text then .error .badMarkup
  else ((double? text).or ((integer? text).or (dated? text))).getD (.ok (.text text))

end Worksheet.Yaml.Scalar
