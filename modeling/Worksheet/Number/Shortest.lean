import Worksheet.Number.Double

/-! The fewest decimal digits that identify a positive finite double. For one digit, two digits and so on the two
neighbours of the double on that decimal grid are tested against the interval of numbers that round to it; the first
grid with a hit decides, of two hits the nearer, of two equally near the even one. -/

namespace Worksheet.Double

structure Decimal where
  digits : Nat
  exponent : Int
  deriving DecidableEq, Repr

/-- The interval around a double, in quarters of its last place and brought to a common denominator. -/
structure Interval where
  low : Nat
  value : Nat
  high : Nat
  denominator : Nat
  closed : Bool

def interval (exact : Parts) : Interval :=
  let narrow := exact.mantissa == Nat.pow 2 52 && exact.exponent > -1074
  let quarter := exact.exponent - 2
  let scale := Nat.pow 2 quarter.toNat
  { low := (4 * exact.mantissa - (if narrow then 1 else 2)) * scale
    value := 4 * exact.mantissa * scale
    high := (4 * exact.mantissa + 2) * scale
    denominator := Nat.pow 2 (-quarter).toNat
    closed := exact.mantissa % 2 == 0 }

def Interval.scaled (span : Interval) (places : Nat) : Interval :=
  { span with
    low := span.low * Nat.pow 10 places
    value := span.value * Nat.pow 10 places
    high := span.high * Nat.pow 10 places }

def Interval.holds (span : Interval) (point : Nat) : Bool :=
  (span.low < point && point < span.high) || (span.closed && (span.low == point || span.high == point))

/-- The better of the two neighbours of the value among the multiples of `unit`, counted in units. -/
def Interval.neighbour? (span : Interval) (unit : Nat) : Option Nat :=
  let below := span.value / unit
  let lowHit := span.holds (below * unit)
  let highHit := span.holds ((below + 1) * unit)
  if lowHit && highHit then
    let toLow := span.value - below * unit
    let toHigh := (below + 1) * unit - span.value
    if toLow < toHigh then some below
    else if toHigh < toLow then some (below + 1)
    else some (below + below % 2)
  else if lowHit then some below
  else if highHit then some (below + 1)
  else none

/-- The least `k` with `value < 10 ^ k`, starting from an estimate that is at most one too small. -/
def decimalExponent (span : Interval) (exact : Parts) : Int :=
  let binary := (Nat.log2 exact.mantissa : Int) + exact.exponent
  let estimate := Int.fdiv (binary * 30103) 100000
  let reaches (k : Int) : Bool :=
    span.value * Nat.pow 10 (-k).toNat < span.denominator * Nat.pow 10 k.toNat
  if reaches (estimate - 1) then estimate - 1
  else if reaches estimate then estimate
  else if reaches (estimate + 1) then estimate + 1
  else estimate + 2

def atLength (span : Interval) (top : Int) (length : Nat) : Option Decimal :=
  let exponent := top - length
  ((span.scaled (-exponent).toNat).neighbour? (span.denominator * Nat.pow 10 exponent.toNat)).map
    fun digits => ⟨digits, exponent⟩

def Decimal.normalize (fuel : Nat) (decimal : Decimal) : Decimal :=
  match fuel with
  | 0 => decimal
  | fuel + 1 =>
    if decimal.digits % 10 = 0 ∧ decimal.digits ≠ 0 then
      normalize fuel ⟨decimal.digits / 10, decimal.exponent + 1⟩
    else decimal

def exactDecimal (exact : Parts) : Decimal :=
  if exact.exponent ≥ 0 then ⟨exact.mantissa * Nat.pow 2 exact.exponent.toNat, 0⟩
  else ⟨exact.mantissa * Nat.pow 5 (-exact.exponent).toNat, exact.exponent⟩

/-- The shortest decimal that identifies a positive finite double. -/
def shortest (exact : Parts) : Decimal :=
  let span := interval exact
  let top := decimalExponent span exact
  let found := (List.range 17).findSome? fun index => atLength span top (index + 1)
  (found.getD (exactDecimal exact)).normalize 20

end Worksheet.Double
