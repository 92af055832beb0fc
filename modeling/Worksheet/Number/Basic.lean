import Worksheet.Failure
import Worksheet.Number.Double

/-! Numbers are exact integers or doubles. Integers stay exact under addition, subtraction and multiplication; as soon
as a double takes part, or two numbers are divided, an integer has to become a double, which fails when it is beyond
their range. Comparison is exact for every mixture. -/

namespace Worksheet

inductive Number where
  | integer (value : Int)
  | double (value : Float)
  deriving DecidableEq, Repr

namespace Number

def zero : Number := .integer 0

def toDouble : Number → Except Failure Float
  | integer value =>
    match Double.ofInt? value with
    | some x => .ok x
    | none => .error .outOfRange
  | double value => .ok value

def mixed (onIntegers : Int → Int → Int) (onDoubles : Float → Float → Float) :
    Number → Number → Except Failure Number
  | integer left, integer right => .ok (integer (onIntegers left right))
  | left, right => do
    let x ← left.toDouble
    let y ← right.toDouble
    return double (onDoubles x y)

def add : Number → Number → Except Failure Number :=
  mixed (· + ·) (· + ·)

def sub : Number → Number → Except Failure Number :=
  mixed (· - ·) (· - ·)

def mul : Number → Number → Except Failure Number :=
  mixed (· * ·) (· * ·)

def compare? : Number → Number → Option Ordering
  | integer left, integer right => some (compare left right)
  | integer left, double right =>
    if right.isNaN then none
    else if right.isInf then some (if right > 0.0 then .lt else .gt)
    else some (compare (left * Double.denominator right) (Double.numerator right))
  | double left, integer right =>
    if left.isNaN then none
    else if left.isInf then some (if left > 0.0 then .gt else .lt)
    else some (compare (Double.numerator left) (right * Double.denominator left))
  | double left, double right =>
    if left < right then some .lt
    else if left > right then some .gt
    else if left == right then some .eq
    else none

def lt (left right : Number) : Bool := left.compare? right == some .lt

def gt (left right : Number) : Bool := left.compare? right == some .gt

def eq (left right : Number) : Bool := left.compare? right == some .eq

def le (left right : Number) : Bool := left.lt right || left.eq right

def ge (left right : Number) : Bool := left.gt right || left.eq right

def isZero (number : Number) : Bool := number.eq zero

/-- Not a number; an integer is asked as the double that it would be. -/
def isNaN : Number → Except Failure Bool
  | integer value => do
    let _ ← (integer value).toDouble
    return false
  | double value => .ok value.isNaN

def isFinite : Number → Except Failure Bool
  | integer value => do
    let _ ← (integer value).toDouble
    return true
  | double value => .ok value.isFinite

/-- The quotient of two integers is rounded once, whatever their size. -/
def div : Number → Number → Except Failure Number
  | integer left, integer right =>
    if right = 0 then .error .zeroDivisor
    else
      let quotient := Double.nearestInt (left * right.sign) right.natAbs
      if quotient.isInf then .error .outOfRange
      else if left = 0 then .ok (double (Double.withSign (right < 0) 0.0))
      else .ok (double quotient)
  | left, right => do
    let x ← left.toDouble
    let y ← right.toDouble
    if y == 0.0 then .error .zeroDivisor else return double (x / y)

def negate : Number → Number
  | integer value => integer (-value)
  | double value => double (-value)

def isNegative : Number → Bool
  | integer value => value < 0
  | double value => Double.isNegative value

def abs : Number → Number
  | integer value => integer value.natAbs
  | double value => double value.abs

/-- An infinity is out of range of the integers, and what is not a number has no integer near it. -/
def toWhole (round : Float → Int) : Number → Except Failure Int
  | integer value => .ok value
  | double value =>
    if value.isNaN then .error .unreadable
    else if value.isInf then .error .outOfRange
    else .ok (round value)

def floor : Number → Except Failure Int := toWhole Double.floor

def ceiling : Number → Except Failure Int := toWhole Double.ceiling

/-- The number to ten decimal places, which absorbs the noise of a binary product. -/
def clean : Number → Number
  | integer value => integer value
  | double value => double (Double.roundPlaces 10 value)

def mod : Number → Number → Except Failure Number
  | integer left, integer right =>
    if right = 0 then .error .zeroDivisor else .ok (integer (Int.fmod left right))
  | left, right => do
    let x ← left.toDouble
    let y ← right.toDouble
    if y == 0.0 then .error .zeroDivisor
    else if x.isNaN || y.isNaN || x.isInf then return double Double.notANumber
    else if y.isInf then
      if x == 0.0 then return double (Double.withSign (Double.isNegative y) 0.0)
      else if (x < 0.0) != (y < 0.0) then return double y
      else return double x
    else return double (Double.remainder x y)

/-- A power of ten: exact for an exponent that is not negative, otherwise a double. -/
def tenToThe (exponent : Int) : Except Failure Number :=
  if exponent ≥ 0 then .ok (integer (Nat.pow 10 exponent.toNat))
  else do
    let y ← (integer exponent).toDouble
    return double (Float.pow 10.0 y)

def sum (numbers : List Number) : Except Failure Number :=
  numbers.foldlM add zero

def product (numbers : List Number) : Except Failure Number :=
  numbers.foldlM mul (.integer 1)

end Number

end Worksheet
