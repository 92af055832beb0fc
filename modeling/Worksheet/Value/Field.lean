import Worksheet.Failure
import Worksheet.Number.Literal
import Worksheet.Text.Basic
import Worksheet.Value

/-! The fields of a record, and the forms in which a field may hold a text or a whole number. -/

namespace Worksheet

namespace Field

def lookup? (fields : Value.Fields) (name : String) : Option Value :=
  (fields.find? fun field => field.1 == name.toList).map (·.2)

def put (name : Text) (value : Value) : Value.Fields → Value.Fields
  | [] => [(name, value)]
  | first :: rest => if first.1 == name then (name, value) :: rest else first :: put name value rest

/-- Of several fields of one name the last value counts, at the place of the first. -/
def keepLast (fields : Value.Fields) : Value.Fields :=
  fields.foldl (fun kept field => put field.1 field.2 kept) []

/-- The text of a field that may be missing; an error code counts as the text that shows it. -/
def readText? : Value → Except Failure (Option Text)
  | .empty => .ok none
  | .text text => .ok (some text)
  | .error code => .ok (some code.text)
  | _ => .error .invalidField

/-- White space, the separators of the control characters aside. -/
def isSpace (char : Char) : Bool :=
  Text.isBlank char && !(0x1C ≤ char.toNat && char.toNat ≤ 0x1F)

def trim (text : Text) : Text :=
  ((text.dropWhile isSpace).reverse.dropWhile isSpace).reverse

def isAsciiDigit (char : Char) : Bool :=
  '0' ≤ char && char ≤ '9'

def plainInt? (text : Text) : Option Int :=
  let (negative, digits) : Bool × Text :=
    match text with
    | '-' :: rest => (true, rest)
    | '+' :: rest => (false, rest)
    | other => (false, other)
  if digits.isEmpty ∨ ¬digits.all isAsciiDigit then none
  else
    let magnitude : Int := Text.digitsValue digits
    some (if negative then -magnitude else magnitude)

def withoutZeroPlaces? (text : Text) : Option Text :=
  let rest := text.dropWhile (· != '.')
  match rest with
  | '.' :: places => if places.all (· == '0') then some (text.takeWhile (· != '.')) else none
  | _ => none

/-- The text without underscores, if these are single and stand inside. -/
def withoutUnderscores? (text : Text) : Option Text :=
  let groups := Text.splitOn ['_'] text
  if groups.all (!·.isEmpty) then some groups.flatten else none

def intOfText? (text : Text) : Option Int :=
  let text := trim text
  if text.length > Text.digitLimit then none
  else
    (plainInt? text).or
      (((withoutZeroPlaces? text).bind plainInt?).or ((withoutUnderscores? text).bind plainInt?))

/-- The magnitude that a double has to stay below to be taken as an integer. -/
def wordLimit : Nat := Nat.pow 2 63

def readInt? : Value → Except Failure (Option Int)
  | .empty => .ok none
  | .bool value => .ok (some (if value then 1 else 0))
  | .number (.integer value) => .ok (some value)
  | .number (.double x) =>
    if x.isFinite && Double.denominator x ∣ (Double.numerator x).natAbs
        && (Double.truncate x).natAbs < wordLimit then
      .ok (some (Double.truncate x))
    else .error .invalidField
  | .text text =>
    match intOfText? text with
    | some value => .ok (some value)
    | none => .error .invalidField
  | _ => .error .invalidField

def either (fields : Value.Fields) (wire plain : String) : Value × Text :=
  match lookup? fields wire with
  | some value => (value, wire.toList)
  | none => ((lookup? fields plain).getD .empty, plain.toList)

end Field

end Worksheet
