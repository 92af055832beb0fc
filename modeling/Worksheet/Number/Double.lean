/-! Doubles as exact binary fractions: taking one apart into mantissa and exponent, and the double nearest to a
quotient of natural numbers, a tie going to the even mantissa. -/

namespace Worksheet.Double

/-- The magnitude of a finite double is `mantissa * 2 ^ exponent`. -/
structure Parts where
  negative : Bool
  mantissa : Nat
  exponent : Int

/-- For finite doubles only: a double that is no number or infinite has no magnitude of this form. -/
def parts (x : Float) : Parts :=
  let bits := x.toBits.toNat
  let biased : Nat := bits / Nat.pow 2 52 % 2048
  let fraction : Nat := bits % Nat.pow 2 52
  if biased = 0 then ⟨bits / Nat.pow 2 63 == 1, fraction, -1074⟩
  else ⟨bits / Nat.pow 2 63 == 1, Nat.pow 2 52 + fraction, (biased : Int) - 1075⟩

def isNegative (x : Float) : Bool :=
  x.toBits.toNat / Nat.pow 2 63 == 1

def infinity : Float := Float.ofBits 0x7FF0000000000000

def notANumber : Float := Float.ofBits 0x7FF8000000000000

def withSign (negative : Bool) (magnitude : Float) : Float :=
  if negative then -magnitude else magnitude

/-- The quotient rounded to the nearest natural number, a half to the even neighbour. -/
def roundDiv (numerator denominator : Nat) : Nat :=
  let quotient := numerator / denominator
  let twice := 2 * (numerator % denominator)
  if twice < denominator then quotient
  else if denominator < twice then quotient + 1
  else quotient + quotient % 2

/-- The greatest `e` with `2 ^ e ≤ numerator / denominator`, for a positive quotient. -/
def binaryExponent (numerator denominator : Nat) : Int :=
  let guess := (Nat.log2 numerator : Int) - Nat.log2 denominator
  if denominator * Nat.pow 2 guess.toNat ≤ numerator * Nat.pow 2 (-guess).toNat then guess else guess - 1

/-- The double `mantissa * 2 ^ exponent`, for a mantissa of at most 53 bits and an exponent of at least
-1074 at which a mantissa of fewer than 53 bits occurs only if the exponent is the least. -/
def assemble (mantissa : Nat) (exponent : Int) : Float :=
  if mantissa < Nat.pow 2 52 then Float.ofBits mantissa.toUInt64
  else if mantissa = Nat.pow 2 53 then
    if exponent + 1 > 971 then infinity
    else Float.ofBits (((exponent + 1076).toNat * Nat.pow 2 52).toUInt64)
  else if exponent > 971 then infinity
  else Float.ofBits (((exponent + 1075).toNat * Nat.pow 2 52 + (mantissa - Nat.pow 2 52)).toUInt64)

/-- The double nearest to `numerator / denominator`; infinity when the quotient is beyond all doubles. -/
def nearest (numerator denominator : Nat) : Float :=
  if numerator = 0 then 0.0
  else
    let exponent := max (binaryExponent numerator denominator - 52) (-1074)
    if exponent > 971 then infinity
    else
      assemble
        (roundDiv (numerator * Nat.pow 2 (-exponent).toNat) (denominator * Nat.pow 2 exponent.toNat)) exponent

def nearestInt (numerator : Int) (denominator : Nat) : Float :=
  withSign (numerator < 0) (nearest numerator.natAbs denominator)

def ofInt? (number : Int) : Option Float :=
  let candidate := nearestInt number 1
  if candidate.isInf then none else some candidate

def numerator (x : Float) : Int :=
  let exact := parts x
  let magnitude := exact.mantissa * Nat.pow 2 exact.exponent.toNat
  if exact.negative then -magnitude else magnitude

def denominator (x : Float) : Nat :=
  Nat.pow 2 (-(parts x).exponent).toNat

def floor (x : Float) : Int :=
  Int.fdiv (numerator x) (denominator x)

def ceiling (x : Float) : Int :=
  -Int.fdiv (-numerator x) (denominator x)

def truncate (x : Float) : Int :=
  Int.tdiv (numerator x) (denominator x)

/-- A finite double rounded to a number of decimal places: its exact value goes to the nearest decimal,
a half to the even one, and from there to the nearest double. -/
def roundPlaces (places : Nat) (x : Float) : Float :=
  if !x.isFinite then x
  else
    let exact := parts x
    if exact.exponent ≥ 0 then x
    else
      let scaled := roundDiv (exact.mantissa * Nat.pow 10 places) (Nat.pow 2 (-exact.exponent).toNat)
      withSign exact.negative (nearest scaled (Nat.pow 10 places))

def remainder (x y : Float) : Float :=
  let common := denominator x * denominator y
  let left := numerator x * denominator y
  let right := numerator y * denominator x
  let rest := Int.tmod left right
  let result := nearestInt rest common
  if rest = 0 then withSign (isNegative y) 0.0
  else if (rest < 0) != (right < 0) then result + y
  else result

end Worksheet.Double
