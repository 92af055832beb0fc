import Worksheet.Value.Coercion

/-! Equality and order of values: by number when both sides are numeric, otherwise by text in small letters. An empty
value counts as zero beside a number. -/

namespace Worksheet.Value

inductive Comparands where
  | numbers (left right : Float)
  | texts (left right : Text)

def blankAsZero (left right : Value) : Except Failure (Value × Value) :=
  match left, right with
  | empty, right => do
    if ← right.isNumeric then return (integer 0, right) else return (empty, right)
  | left, empty => do
    if ← left.isNumeric then return (left, integer 0) else return (left, empty)
  | left, right => .ok (left, right)

def bothNumeric (left right : Value) : Except Failure Bool := do
  if ← left.isNumeric then right.isNumeric else return false

def comparands (left right : Value) : Except Failure Comparands := do
  let (left, right) ← blankAsZero left right
  if ← bothNumeric left right then
    let x ← (← left.toNumber).toDouble
    let y ← (← right.toNumber).toDouble
    return .numbers x y
  else
    let first ← left.toText
    let second ← right.toText
    return .texts (Text.lower first) (Text.lower second)

def equal (left right : Value) : Except Failure Bool := do
  match ← comparands left right with
  | .numbers x y => return x == y
  | .texts first second => return first == second

def textOrder : Text → Text → Ordering
  | [], [] => .eq
  | [], _ :: _ => .lt
  | _ :: _, [] => .gt
  | left :: lefts, right :: rights =>
    if left < right then .lt else if right < left then .gt else textOrder lefts rights

/-- A number that is not comparable stands on neither side of the other. -/
def compare (left right : Value) : Except Failure Ordering := do
  match ← comparands left right with
  | .numbers x y => return if x > y then .gt else if x < y then .lt else .eq
  | .texts first second => return textOrder first second

end Worksheet.Value
