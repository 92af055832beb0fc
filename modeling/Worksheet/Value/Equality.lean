import Worksheet.Value.Coercion

/-! Equality of values across kinds: an error code equals the text that shows it, and a truth value the number that it
counts as. -/

namespace Worksheet

namespace Value

mutual

/-- Equal values; truth values count as numbers, and an error code equals the text that shows it. -/
def same : Value → Value → Bool
  | empty, empty => true
  | bool left, bool right => left == right
  | bool left, number right => (ofBool left).eq right
  | number left, bool right => left.eq (ofBool right)
  | number left, number right => left.eq right
  | text left, text right => left == right
  | text left, error right => left == right.text
  | error left, text right => left.text == right
  | error left, error right => left == right
  | list left, list right => sameAll left right
  | record left, record right => left.length == right.length && sameFields left right
  | date left, date right => left == right
  | moment left, moment right => left == right
  | _, _ => false

def sameAll : List Value → List Value → Bool
  | [], [] => true
  | left :: lefts, right :: rights => same left right && sameAll lefts rights
  | _, _ => false

def sameFields : List (Text × Value) → List (Text × Value) → Bool
  | [], _ => true
  | (name, value) :: rest, fields =>
    (match fields.find? fun field => field.1 == name with
      | some found => same value found.2
      | none => false) && sameFields rest fields

end

def identical (left right : Value) : Bool :=
  match left, right with
  | number (.double x), number (.double y) => (x.isNaN && y.isNaN) || x == y
  | left, right => same left right

/-- Gives an entry to a key where an equal key stands, or behind all others. -/
def putEntry {α : Type} (key : Value) (entry : α) : List (Value × α) → List (Value × α)
  | [] => [(key, entry)]
  | first :: rest =>
    if first.1.identical key then (first.1, entry) :: rest else first :: putEntry key entry rest

end Value

end Worksheet
