import Worksheet.Failure
import Worksheet.Number.Basic

/-! Reading numbers. A literal is an optional sign, digits with at most one point among them and an optional exponent;
without point and exponent it is an exact integer. A text may be a literal as a whole, or only begin with one, or
begin with the word for infinity. -/

namespace Worksheet

namespace Text

def digitLimit : Nat := 4300

/-- Fails beyond the limit, leading zeros included. -/
def readNat (digits : Text) : Except Failure Nat :=
  if digits.length > digitLimit then .error .unreadable else .ok (digitsValue digits)

def writeInt (number : Int) : Except Failure Text :=
  let digits := ofNat number.natAbs
  if digits.length > digitLimit then .error .unreadable
  else .ok (if number < 0 then '-' :: digits else digits)

end Text

/-- The parts of a literal as they stand in the text; the fraction is there when a point is. -/
structure Literal where
  negative : Bool
  whole : Text
  fraction : Option Text
  exponent : Option (Bool × Text)

namespace Literal

def readSign : Text → Bool × Text
  | '-' :: rest => (true, rest)
  | '+' :: rest => (false, rest)
  | text => (false, text)

def readDigits (text : Text) : Text × Text :=
  (text.takeWhile Text.isDigit, text.dropWhile Text.isDigit)

/-- Digits with at most one point, and at least one digit: what is left when there are none is nothing. -/
def readMantissa (text : Text) : Option (Text × Option Text × Text) :=
  let (whole, rest) := readDigits text
  match whole, rest with
  | [], '.' :: rest =>
    let (fraction, rest) := readDigits rest
    if fraction.isEmpty then none else some ([], some fraction, rest)
  | [], _ => none
  | _ :: _, '.' :: rest =>
    let (fraction, rest) := readDigits rest
    some (whole, some fraction, rest)
  | _ :: _, rest => some (whole, none, rest)

def readExponent (text : Text) : Option (Bool × Text) × Text :=
  match text with
  | [] => (none, [])
  | char :: rest =>
    if char = 'e' ∨ char = 'E' then
      let (negative, rest) := readSign rest
      let (digits, rest) := readDigits rest
      if digits.isEmpty then (none, text) else (some (negative, digits), rest)
    else (none, text)

def read (text : Text) : Option (Literal × Text) :=
  let (negative, rest) := readSign text
  match readMantissa rest with
  | none => none
  | some (whole, fraction, rest) =>
    let (exponent, rest) := readExponent rest
    some (⟨negative, whole, fraction, exponent⟩, rest)

def exponentValue : Option (Bool × Text) → Int
  | none => 0
  | some (negative, digits) =>
    let magnitude : Int := Text.digitsValue digits
    if negative then -magnitude else magnitude

/-- The double nearest to `digits * 10 ^ exponent`; a magnitude below or beyond all doubles is decided
by the position of the leading digit alone. -/
def nearestDecimal (digits : Nat) (exponent : Int) : Float :=
  let top : Int := (Text.ofNat digits).length + exponent
  if digits = 0 then 0.0
  else if top > 310 then Double.infinity
  else if top < -400 then 0.0
  else Double.nearest (digits * Nat.pow 10 exponent.toNat) (Nat.pow 10 (-exponent).toNat)

def value (literal : Literal) : Except Failure Number :=
  match literal.fraction, literal.exponent with
  | none, none => do
    let magnitude ← Text.readNat literal.whole
    return .integer (if literal.negative then -(magnitude : Int) else magnitude)
  | fraction, exponent =>
    let fraction := fraction.getD []
    let digits := Text.digitsValue (literal.whole ++ fraction)
    .ok (.double (Double.withSign literal.negative
      (nearestDecimal digits (exponentValue exponent - fraction.length))))

end Literal

namespace Number

def infinityWord : Text := "Infinity".toList

def negativeInfinity : Float := -Double.infinity

def readPrefix (text : Text) : Except Failure (Option Number) :=
  let text := Text.stripLeft text
  let (negative, unsigned) := Literal.readSign text
  if infinityWord.isPrefixOf unsigned then
    .ok (some (.double (Double.withSign negative Double.infinity)))
  else
    match Literal.read text with
    | none => .ok none
    | some (literal, _) => literal.value.map some

def readWhole (text : Text) : Except Failure (Option Number) :=
  match Literal.read (Text.strip text) with
  | some (literal, []) => literal.value.map some
  | _ => .ok none

end Number

end Worksheet
