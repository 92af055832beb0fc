import Worksheet.Number.Written

/-! Number pictures such as `$#,##0.00` or `0.0%`. A picture is a text in front, a run of `0`, `#` and commas for the
integer part, a run of `0` and `#` after a point for the decimal places, a percent sign and a text behind; all parts
may be missing. A zero asks for a digit, `#` only allows one, a comma asks for groups of three digits. -/

namespace Worksheet

structure NumberPicture where
  before : Text
  whole : Text
  places : Text
  percent : Bool
  after : Text

namespace NumberPicture

def opensNumber (char : Char) : Bool :=
  char == '0' || char == '#' || char == '.' || char == ','

def isWholePart (char : Char) : Bool :=
  char == '0' || char == '#' || char == ','

def isPlace (char : Char) : Bool :=
  char == '0' || char == '#'

def readPlaces : Text → Text × Text
  | '.' :: rest =>
    let places := rest.takeWhile isPlace
    if places.isEmpty then ([], '.' :: rest) else (places, rest.dropWhile isPlace)
  | text => ([], text)

def readPercent : Text → Bool × Text
  | '%' :: rest => (true, rest)
  | text => (false, text)

def ofText (text : Text) : NumberPicture :=
  let before := text.takeWhile (!opensNumber ·)
  let rest := text.dropWhile (!opensNumber ·)
  let (places, tail) := readPlaces (rest.dropWhile isWholePart)
  let (percent, after) := readPercent tail
  ⟨before, rest.takeWhile isWholePart, places, percent, after⟩

def precision : Nat := 28

def exactDecimal : Number → Bool × Double.Decimal
  | .integer value => (value < 0, ⟨value.natAbs, 0⟩)
  | .double value =>
    if value == 0.0 then (false, ⟨0, 0⟩)
    else (Double.isNegative value, Double.shortest (Double.parts value))

def roundHalfUp (numerator denominator : Nat) : Nat :=
  (2 * numerator + denominator) / (2 * denominator)

def units (picture : NumberPicture) (decimal : Double.Decimal) : Except Failure Nat :=
  let shift := decimal.exponent + picture.places.length + (if picture.percent then 2 else 0)
  let top : Int := (Text.ofNat decimal.digits).length + shift
  if decimal.digits = 0 ∨ top < -1 then .ok 0
  else if top > precision + 1 then .error .tooPrecise
  else
    let amount := roundHalfUp (decimal.digits * Nat.pow 10 shift.toNat) (Nat.pow 10 (-shift).toNat)
    if (Text.ofNat amount).length > precision then .error .tooPrecise else .ok amount

/-- Trailing zeros are dropped, last first, as long as more than `least` digits are left. -/
def trimZeros (least : Nat) (digits : Text) : Text :=
  let spare := (digits.drop least).reverse.dropWhile (· == '0')
  digits.take least ++ spare.reverse

/-- A comma before every third digit from the right; `digits` are reversed. -/
def groupReversed : Text → Text
  | first :: second :: third :: fourth :: rest =>
    first :: second :: third :: ',' :: groupReversed (fourth :: rest)
  | digits => digits

def group (digits : Text) : Text :=
  (groupReversed digits.reverse).reverse

/-- The integer part: its leading zeros go, the zeros that the picture asks for come, and grouping writes
the number anew. -/
def writeWhole (picture : NumberPicture) (digits : Text) : Except Failure Text :=
  let padded := Text.zeroFill (picture.whole.count '0') (digits.dropWhile (· == '0'))
  if picture.whole.contains ',' ∧ ¬padded.isEmpty then do
    let number ← Text.readNat padded
    return group (Text.ofNat number)
  else .ok padded

def write (picture : NumberPicture) (number : Number) : Except Failure Text := do
  if ← number.isFinite then
    let (negative, decimal) := exactDecimal number
    let amount ← picture.units decimal
    let scale := Nat.pow 10 picture.places.length
    let fraction := trimZeros (picture.places.count '0')
      (if picture.places.isEmpty then []
        else Text.zeroFill picture.places.length (Text.ofNat (amount % scale)))
    let whole ← picture.writeWhole (Text.ofNat (amount / scale))
    return (if negative && amount != 0 then ['-'] else []) ++ picture.before ++ whole
      ++ (if fraction.isEmpty then [] else '.' :: fraction)
      ++ (if picture.percent then ['%'] else []) ++ picture.after
  else number.display

end NumberPicture

end Worksheet
