import Worksheet.Number.Literal
import Worksheet.Text.Hex
import Worksheet.Value.Field

/-! Reading JSON. Beside the standard forms the words for the doubles that are no finite numbers are read. What is
read is one value with white space around it; of several fields of one name the last counts. -/

namespace Worksheet.Json

/-- Why a text is not read: it is not of the form, or an integer in it has too many digits. -/
inductive Fault where
  | malformed
  | tooLong
  deriving DecidableEq

abbrev Reading (α : Type) := Except Fault (α × Text)

def isSpace (char : Char) : Bool :=
  char == ' ' || char == '\t' || char == '\n' || char == '\r'

def skipSpace (text : Text) : Text :=
  text.dropWhile isSpace

def simpleEscape? : Char → Option Nat
  | '"' => some 0x22
  | '\\' => some 0x5C
  | '/' => some 0x2F
  | 'b' => some 0x08
  | 'f' => some 0x0C
  | 'n' => some 0x0A
  | 'r' => some 0x0D
  | 't' => some 0x09
  | _ => none

def readUnits : Text → Reading (List Nat)
  | [] => .error .malformed
  | '"' :: rest => .ok ([], rest)
  | '\\' :: 'u' :: a :: b :: c :: d :: rest =>
    match Text.readHex? [a, b, c, d] with
    | some unit => (readUnits rest).map fun (units, after) => (unit :: units, after)
    | none => .error .malformed
  | '\\' :: char :: rest =>
    match simpleEscape? char with
    | some unit => (readUnits rest).map fun (units, after) => (unit :: units, after)
    | none => .error .malformed
  | char :: rest =>
    if char < ' ' then .error .malformed
    else (readUnits rest).map fun (units, after) => (char.toNat :: units, after)

def readText (text : Text) : Reading Text :=
  (readUnits text).map fun (units, rest) => (Text.ofCodes units, rest)

/-- The words that are values, longer ones before their beginnings. -/
def words : List (Text × Value) :=
  [("null".toList, .empty), ("true".toList, .bool true), ("false".toList, .bool false),
   ("NaN".toList, .double Double.notANumber), ("Infinity".toList, .double Double.infinity),
   ("-Infinity".toList, .double Number.negativeInfinity)]

def readWord? (text : Text) : Option (Value × Text) :=
  (words.find? fun word => word.1.isPrefixOf text).map fun word => (word.2, text.drop word.1.length)

def readDigits (text : Text) : Text × Text :=
  (text.takeWhile Char.isDigit, text.dropWhile Char.isDigit)

def readWhole? (text : Text) : Option (Text × Text) :=
  match text with
  | '0' :: rest => some (['0'], rest)
  | other =>
    let (digits, rest) := readDigits other
    if digits.isEmpty then none else some (digits, rest)

def readFraction (text : Text) : Option Text × Text :=
  match text with
  | '.' :: rest =>
    let (digits, after) := readDigits rest
    if digits.isEmpty then (none, text) else (some digits, after)
  | _ => (none, text)

def readExponent (text : Text) : Option (Bool × Text) × Text :=
  match text with
  | [] => (none, [])
  | char :: rest =>
    if char = 'e' ∨ char = 'E' then
      let (negative, rest) := Literal.readSign rest
      let (digits, after) := readDigits rest
      if digits.isEmpty then (none, text) else (some (negative, digits), after)
    else (none, text)

def readMinus : Text → Bool × Text
  | '-' :: rest => (true, rest)
  | text => (false, text)

def readNumber (text : Text) : Reading Value :=
  let (negative, unsigned) := readMinus text
  match readWhole? unsigned with
  | none => .error .malformed
  | some (whole, rest) =>
    let (fraction, rest) := readFraction rest
    let (exponent, rest) := readExponent rest
    match (Literal.mk negative whole fraction exponent).value with
    | .ok number => .ok (.number number, rest)
    | .error _ => .error .tooLong

mutual

/-- A value at the start of a text; `fuel` bounds the number of values and fields still to be read. -/
def readValue : Nat → Text → Reading Value
  | 0, _ => .error .malformed
  | _ + 1, '"' :: rest => (readText rest).map fun (text, rest) => (.text text, rest)
  | fuel + 1, '[' :: rest =>
    match skipSpace rest with
    | ']' :: rest => .ok (.list [], rest)
    | rest => (readItems fuel rest).map fun (values, rest) => (.list values, rest)
  | fuel + 1, '{' :: rest =>
    match skipSpace rest with
    | '}' :: rest => .ok (.record [], rest)
    | rest => (readFields fuel rest).map fun (fields, rest) => (.record (Field.keepLast fields), rest)
  | _ + 1, text =>
    match readWord? text with
    | some found => .ok found
    | none => readNumber text

def readItems : Nat → Text → Except Fault (List Value × Text)
  | 0, _ => .error .malformed
  | fuel + 1, text => do
    let (value, rest) ← readValue fuel text
    match skipSpace rest with
    | ']' :: rest => .ok ([value], rest)
    | ',' :: rest => (readItems fuel (skipSpace rest)).map fun (values, rest) => (value :: values, rest)
    | _ => .error .malformed

def readFields : Nat → Text → Except Fault (List (Text × Value) × Text)
  | fuel + 1, '"' :: text => do
    let (name, rest) ← readText text
    match skipSpace rest with
    | ':' :: rest => do
      let (value, rest) ← readValue fuel (skipSpace rest)
      match skipSpace rest with
      | '}' :: rest => .ok ([(name, value)], rest)
      | ',' :: rest =>
        (readFields fuel (skipSpace rest)).map fun (fields, rest) => ((name, value) :: fields, rest)
      | _ => .error .malformed
    | _ => .error .malformed
  | _, _ => .error .malformed

end

def read (text : Text) : Except Fault Value :=
  match readValue (text.length + 1) (skipSpace text) with
  | .ok (value, rest) => if (skipSpace rest).isEmpty then .ok value else .error .malformed
  | .error fault => .error fault

end Worksheet.Json
