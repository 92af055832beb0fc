import Worksheet.Number.Written
import Worksheet.Text.Hex
import Worksheet.Value.Coercion

/-! Values written as JSON in ASCII. A comma and a colon are followed by one space, every other character outside the
printable ASCII ones is an escape, and a double that is no finite number is written as a word. -/

namespace Worksheet.Json

def escapeUnit (unit : Nat) : Text :=
  '\\' :: 'u' :: Text.writeHex 4 unit

def writeChar (char : Char) : Text :=
  if char = '"' ∨ char = '\\' then ['\\', char]
  else if char = '\n' then ['\\', 'n']
  else if char = '\r' then ['\\', 'r']
  else if char = '\t' then ['\\', 't']
  else if char = Char.ofNat 8 then ['\\', 'b']
  else if char = Char.ofNat 12 then ['\\', 'f']
  else if ' ' ≤ char ∧ char ≤ '~' then [char]
  else (Text.codeUnits char).flatMap escapeUnit

def writeText (text : Text) : Text :=
  '"' :: text.flatMap writeChar ++ ['"']

def writeDouble (x : Float) : Text :=
  if x.isNaN then "NaN".toList
  else if x.isInf then (if x > 0.0 then "Infinity".toList else "-Infinity".toList)
  else Double.write x

def writeBool (value : Bool) : Text :=
  if value then "true".toList else "false".toList

mutual

def write : Value → Except Failure Text
  | .empty => .ok "null".toList
  | .bool value => .ok (writeBool value)
  | .number (.integer value) => Text.writeInt value
  | .number (.double value) => .ok (writeDouble value)
  | .text value => .ok (writeText value)
  | .error code => .ok (writeText code.text)
  | .list values => do return '[' :: Text.join ", ".toList (← writeAll values) ++ [']']
  | .record fields => do return '{' :: Text.join ", ".toList (← writeFields fields) ++ ['}']
  | .date value => .ok (writeText (Value.dateText value))
  | .moment value => .ok (writeText (Value.momentText ' ' value))

def writeAll : List Value → Except Failure (List Text)
  | [] => .ok []
  | value :: rest => do
    let first ← write value
    return first :: (← writeAll rest)

def writeFields : List (Text × Value) → Except Failure (List Text)
  | [] => .ok []
  | (name, value) :: rest => do
    let first ← write value
    return (writeText name ++ ": ".toList ++ first) :: (← writeFields rest)

end

/-! ## Over several lines, indented by two spaces for each collection -/

def margin (depth : Nat) : Text :=
  '\n' :: List.replicate (2 * depth) ' '

def bracketed (depth : Nat) (first last : Char) (parts : List Text) : Text :=
  if parts.isEmpty then [first, last]
  else
    first :: margin (depth + 1) ++ Text.join (',' :: margin (depth + 1)) parts ++ margin depth ++ [last]

mutual

def writeIndented (depth : Nat) : Value → Except Failure Text
  | .list values => do return bracketed depth '[' ']' (← writeItemLines (depth + 1) values)
  | .record fields => do return bracketed depth '{' '}' (← writeFieldLines (depth + 1) fields)
  | other => write other

def writeItemLines (depth : Nat) : List Value → Except Failure (List Text)
  | [] => .ok []
  | value :: rest => do
    let first ← writeIndented depth value
    return first :: (← writeItemLines depth rest)

def writeFieldLines (depth : Nat) : List (Text × Value) → Except Failure (List Text)
  | [] => .ok []
  | (name, value) :: rest => do
    let first ← writeIndented depth value
    return (writeText name ++ ": ".toList ++ first) :: (← writeFieldLines depth rest)

end

end Worksheet.Json
