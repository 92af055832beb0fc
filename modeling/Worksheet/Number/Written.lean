import Worksheet.Number.Literal
import Worksheet.Number.Shortest

/-! Numbers as text. The exact form has the fewest digits that identify a double, a point or an exponent in every
double, and positional notation from 0.0001 up to below 10 ^ 16. The displayed form writes a double that is a whole
number below 10 ^ 21 without point and exponent. -/

namespace Worksheet

namespace Double

def writeExponent (exponent : Int) : Text :=
  (if exponent < 0 then '-' else '+') :: Text.zeroFill 2 (Text.ofNat exponent.natAbs)

/-- The decimal `0.d₁d₂… * 10 ^ top` of the digits `d₁d₂…`. -/
def writeDigits (digits : Text) (top : Int) : Text :=
  if -4 < top ∧ top ≤ 16 then
    if top ≤ 0 then "0.".toList ++ List.replicate (-top).toNat '0' ++ digits
    else if digits.length ≤ top.toNat then
      digits ++ List.replicate (top.toNat - digits.length) '0' ++ ".0".toList
    else digits.take top.toNat ++ '.' :: digits.drop top.toNat
  else
    match digits with
    | [single] => single :: 'e' :: writeExponent (top - 1)
    | first :: rest => first :: '.' :: rest ++ 'e' :: writeExponent (top - 1)
    | [] => []

def write (x : Float) : Text :=
  if x.isNaN then "nan".toList
  else
    let sign : Text := if isNegative x then ['-'] else []
    if x.isInf then sign ++ "inf".toList
    else if x == 0.0 then sign ++ "0.0".toList
    else
      let decimal := shortest (parts x)
      let digits := Text.ofNat decimal.digits
      sign ++ writeDigits digits (digits.length + decimal.exponent)

end Double

namespace Number

def write : Number → Except Failure Text
  | integer value => Text.writeInt value
  | double value => .ok (Double.write value)

def displayDouble (x : Float) : Text :=
  if x.isNaN then "NaN".toList
  else if x.isInf then (if x > 0.0 then "Infinity".toList else "-Infinity".toList)
  else
    let whole := Double.truncate x
    if Double.numerator x = whole * Double.denominator x ∧ whole.natAbs < Nat.pow 10 21 then
      Text.ofInt whole
    else Double.write x

def display : Number → Except Failure Text
  | integer value => Text.writeInt value
  | double value => .ok (displayDouble value)

end Number

end Worksheet
