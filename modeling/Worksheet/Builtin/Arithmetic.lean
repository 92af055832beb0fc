import Worksheet.Builtin.Basic
import Worksheet.Number.Statistics

/-! Functions of single numbers: rounding to digits and to multiples, roots, powers, logarithms, remainders and
numbers drawn at random. -/

namespace Worksheet.Builtin

def numberAt (arguments : List Value) (index : Nat) : Except Failure Number :=
  (argument arguments index).toNumber

def digitFactor (arguments : List Value) : Except Failure Number := do
  if arguments.length > 1 then Number.tenToThe (← (argument arguments 1).toInteger)
  else Number.tenToThe 0

def round (arguments : List Value) : Except Failure Value := do
  require "ROUND" arguments 1 2
  let factor ← digitFactor arguments
  let scaled ← (← (← numberAt arguments 0).mul factor).add (.double 0.5)
  return .number (← (Number.integer (← scaled.floor)).div factor)

def roundMagnitude (whole : Number → Except Failure Int) (arguments : List Value) : Except Failure Value := do
  let number ← numberAt arguments 0
  let factor ← digitFactor arguments
  let scaled ← number.abs.mul factor
  let quotient ← (← (Number.integer (← whole scaled.clean)).div factor).toDouble
  let sign ← number.toDouble
  return .double (Double.withSign (Double.isNegative sign) quotient.abs)

def roundUp (arguments : List Value) : Except Failure Value := do
  require "ROUNDUP" arguments 1 2
  roundMagnitude Number.ceiling arguments

def roundDown (arguments : List Value) : Except Failure Value := do
  require "ROUNDDOWN" arguments 1 2
  roundMagnitude Number.floor arguments

def truncated (arguments : List Value) : Except Failure Value := do
  require "TRUNC" arguments 1 2
  roundMagnitude Number.floor arguments

def roundMultiple (whole : Number → Except Failure Int) (arguments : List Value) : Except Failure Value := do
  let number ← numberAt arguments 0
  if arguments.length = 1 then return .integer (← whole number)
  else
    let significance ← numberAt arguments 1
    if significance.isZero then return .integer 0
    else
      let quotient ← number.div significance
      return .number (← (Number.integer (← whole quotient.clean)).mul significance)

def floorTo (arguments : List Value) : Except Failure Value := do
  require "FLOOR" arguments 1 2
  roundMultiple Number.floor arguments

def ceilingTo (arguments : List Value) : Except Failure Value := do
  require "CEILING" arguments 1 2
  roundMultiple Number.ceiling arguments

def absolute (arguments : List Value) : Except Failure Value := do
  require "ABS" arguments 1 1
  return .number (← numberAt arguments 0).abs

def root (arguments : List Value) : Except Failure Value := do
  require "SQRT" arguments 1 1
  let number ← numberAt arguments 0
  if number.lt Number.zero then return .integer 0
  else return .double (← number.toDouble).sqrt

/-- A power of finite doubles that overflows is positive infinity, and one that is not real is no number. -/
def powerOf (base exponent : Float) : Float :=
  let result := Float.pow base exponent
  if base.isFinite && exponent.isFinite then
    if result.isNaN then Double.notANumber
    else if result.isInf then (if base == 0.0 then Double.notANumber else Double.infinity)
    else result
  else result

def powerOfValues (base exponent : Value) : Except Failure Value := do
  let left ← base.toNumber
  let right ← exponent.toNumber
  return .double (powerOf (← left.toDouble) (← right.toDouble))

def power (arguments : List Value) : Except Failure Value := do
  require "POWER" arguments 2 2
  match powerOfValues (argument arguments 0) (argument arguments 1) with
  | .error .outOfRange => return .double Double.infinity
  | .error .unreadable => return .double Double.notANumber
  | result => result

def remainder (arguments : List Value) : Except Failure Value := do
  require "MOD" arguments 2 2
  let divisor ← numberAt arguments 1
  if divisor.isZero then throw .zeroDivisor
  return .number (← (← numberAt arguments 0).mod divisor)

/-- A mantissa from one half up to one, rounded to a double, and a binary exponent. -/
def splitBinary (number : Nat) : Float × Nat :=
  let length := Number.bitLength number
  let mantissa := Double.nearest number (Nat.pow 2 length)
  if mantissa == 1.0 then (0.5, length + 1) else (mantissa, length)

def logDouble (x : Float) : Except Failure Float :=
  if x.isNaN then .ok x
  else if x ≤ 0.0 then .error .unreadable
  else .ok x.log

/-- The natural logarithm of a positive number, also of an integer beyond the range of doubles. -/
def logNumber (number : Number) : Except Failure Float :=
  match number with
  | .integer value =>
    if value ≤ 0 then .error .unreadable
    else
      match Double.ofInt? value with
      | some x => logDouble x
      | none =>
        let (mantissa, exponent) := splitBinary value.natAbs
        .ok (mantissa.log + (2.0 : Float).log * Double.nearest exponent 1)
  | .double x => logDouble x

def logarithm (arguments : List Value) : Except Failure Value := do
  require "LOG" arguments 1 2
  let base ← if arguments.length = 2 then numberAt arguments 1 else .ok (.integer 10)
  let number ← numberAt arguments 0
  let top ← logNumber number
  let bottom ← logNumber base
  return .number (← (Number.double top).div (.double bottom))

def naturalLogarithm (arguments : List Value) : Except Failure Value := do
  require "LN" arguments 1 1
  return .double (← logNumber (← numberAt arguments 0))

def exponential (arguments : List Value) : Except Failure Value := do
  require "EXP" arguments 1 1
  let x ← (← numberAt arguments 0).toDouble
  let result := x.exp
  if result.isInf && x.isFinite then throw .outOfRange
  return .double result

def pi (arguments : List Value) : Except Failure Value := do
  require "PI" arguments 0 0
  return .double 3.141592653589793

def random (ambient : Ambient) (arguments : List Value) : Except Failure Value := do
  require "RAND" arguments 0 0
  return .double (Double.nearest (ambient.seed % Nat.pow 2 53) (Nat.pow 2 53))

def randomBetween (ambient : Ambient) (arguments : List Value) : Except Failure Value := do
  require "RANDBETWEEN" arguments 2 2
  let low ← (← numberAt arguments 0).ceiling
  let high ← (← numberAt arguments 1).floor
  if high < low then throw .unreadable
  return .integer (low + Int.fmod ambient.seed (high - low + 1))

def arithmetic : List Builtin :=
  [plain "ROUND" round,
   plain "ROUNDUP" roundUp,
   plain "ROUNDDOWN" roundDown,
   plain "TRUNC" truncated,
   plain "FLOOR" floorTo,
   plain "CEILING" ceilingTo,
   plain "ABS" absolute,
   plain "SQRT" root,
   plain "POWER" power,
   plain "MOD" remainder,
   plain "LOG" logarithm,
   plain "LN" naturalLogarithm,
   plain "EXP" exponential,
   plain "PI" pi,
   changing "RAND" random,
   changing "RANDBETWEEN" randomBetween]

end Worksheet.Builtin
