import Worksheet.Number.Basic

/-! Order statistics and sample deviations. Variance is computed in exact fractions and rounded once; over integers
alone it is an integer when it is whole. The deviation is the square root of the exact variance, rounded once. -/

namespace Worksheet

def squareRoot (number : Nat) : Nat :=
  if number = 0 then 0
  else
    let half := 2 * squareRoot (number / 4)
    if (half + 1) * (half + 1) ≤ number then half + 1 else half
termination_by number
decreasing_by omega

namespace Number

def toRat : Number → Rat
  | integer value => value
  | double value => mkRat (Double.numerator value) (Double.denominator value)

def maximum? : List Number → Option Number
  | [] => none
  | first :: rest => some (rest.foldl (fun best number => if number.gt best then number else best) first)

def minimum? : List Number → Option Number
  | [] => none
  | first :: rest => some (rest.foldl (fun best number => if number.lt best then number else best) first)

def sorted (numbers : List Number) : List Number :=
  numbers.mergeSort fun left right => !right.lt left

def median (numbers : List Number) : Except Failure Number :=
  let ordered := sorted numbers
  let middle := ordered.length / 2
  if ordered.length % 2 = 1 then .ok (ordered.getD middle zero)
  else if ordered.isEmpty then .ok zero
  else do
    let both ← (ordered.getD (middle - 1) zero).add (ordered.getD middle zero)
    both.div (integer 2)

def isInfinite : Number → Bool
  | integer _ => false
  | double value => value.isInf

/-- The exact sample variance of finite numbers, of which there are at least two. -/
def exactVariance (numbers : List Number) : Rat :=
  let values := numbers.map toRat
  let count : Rat := values.length
  let total := values.foldl (· + ·) 0
  let squares := values.foldl (fun sum value => sum + value * value) 0
  (count * squares - total * total) / (count * (count - 1))

/-- What the sum of the infinite numbers among the given ones is. -/
def infiniteSum (numbers : List Number) : Float :=
  numbers.foldl (fun sum number =>
    match number with
    | double value => if value.isInf then sum + value else sum
    | integer _ => sum) 0.0

def isInteger : Number → Bool
  | integer _ => true
  | double _ => false

def variance (numbers : List Number) : Except Failure Number :=
  if numbers.any isInfinite then .ok (double (infiniteSum numbers))
  else
    let exact := exactVariance numbers
    if numbers.all isInteger && exact.den == 1 then .ok (integer exact.num)
    else (integer exact.num).div (integer exact.den)

/-- The square root of a quotient, its last bit set when digits were lost, so that rounding it once more
is rounding the exact root. -/
def stickyRoot (numerator denominator : Nat) : Nat :=
  let root := squareRoot (numerator / denominator)
  if root * root * denominator = numerator then root else root ||| 1

def bitLength (number : Nat) : Nat :=
  if number = 0 then 0 else Nat.log2 number + 1

def rootOfFraction (numerator denominator : Nat) : Except Failure Number :=
  let shift := Int.fdiv ((bitLength numerator : Int) - bitLength denominator - 109) 2
  if shift ≥ 0 then
    let root := stickyRoot numerator (denominator * Nat.pow 2 (2 * shift.toNat))
    (integer (root * Nat.pow 2 shift.toNat)).div (integer 1)
  else
    (integer (stickyRoot (numerator * Nat.pow 2 (2 * (-shift).toNat)) denominator)).div
      (integer (Nat.pow 2 (-shift).toNat))

def deviation (numbers : List Number) : Except Failure Number :=
  if numbers.any isInfinite then .error .notAFraction
  else
    let exact := exactVariance numbers
    rootOfFraction exact.num.natAbs exact.den

end Number

end Worksheet
