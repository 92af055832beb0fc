import Worksheet.Value.Equality
import Worksheet.Value.Field
import Worksheet.Value.Plain
import Worksheet.Yaml.Node
import Worksheet.Yaml.Scalar

/-! What a YAML document says: values, sequences, and mappings from values. Of several pairs with equal keys the last
value counts, at the place of the first. Collections are filled level by level, so that of several faults the one at
the least depth is found. -/

namespace Worksheet.Yaml

inductive Content where
  | scalar (value : Value)
  | sequence (items : List Content)
  | mapping (pairs : List (Value × Content))

structure Fault where
  depth : Nat
  cause : Failure

abbrev Filled (α : Type) := Except Fault α

/-- Two parts of a collection, or the less deep of their faults. -/
def both {α β : Type} : Filled α → Filled β → Filled (α × β)
  | .ok first, .ok second => .ok (first, second)
  | .ok _, .error fault => .error fault
  | .error fault, .ok _ => .error fault
  | .error first, .error second => .error (if second.depth < first.depth then second else first)

def atDepth {α : Type} (depth : Nat) : Except Failure α → Filled α
  | .ok found => .ok found
  | .error cause => .error ⟨depth, cause⟩

def scalarValue (isPlain : Bool) (text : Text) : Except Failure Value :=
  if isPlain then Scalar.value text else .ok (.text text)

/-- The value of a key. Collections are no keys, and an equals sign is a text there. -/
def keyValue : Node → Except Failure Value
  | .scalar isPlain text => if text = ['='] then .ok (.text text) else scalarValue isPlain text
  | _ => .error .badMarkup

namespace Content

def ofPairs (pairs : List (Value × Content)) : Content :=
  .mapping (pairs.foldl (fun kept pair => Value.putEntry pair.1 pair.2 kept) [])

mutual

def ofNode (depth : Nat) : Node → Filled Content
  | .scalar isPlain text => (atDepth depth (scalarValue isPlain text)).map .scalar
  | .sequence items => (ofNodes (depth + 1) items).map .sequence
  | .mapping pairs => (ofNodePairs (depth + 1) pairs).map ofPairs

def ofNodes (depth : Nat) : List Node → Filled (List Content)
  | [] => .ok []
  | node :: rest =>
    (both (ofNode depth node) (ofNodes depth rest)).map fun (first, others) => first :: others

def ofNodePairs (depth : Nat) : List (Node × Node) → Filled (List (Value × Content))
  | [] => .ok []
  | (key, node) :: rest =>
    (both (both (atDepth depth (keyValue key)) (ofNode depth node)) (ofNodePairs depth rest)).map
      fun (first, others) => first :: others

end

mutual

def toValue : Content → Except Failure Value
  | scalar value => .ok value
  | sequence items => do return .list (← toValues items)
  | mapping pairs => do return .record (Field.keepLast (← toFields pairs))

def toValues : List Content → Except Failure (List Value)
  | [] => .ok []
  | content :: rest => do
    let first ← content.toValue
    return first :: (← toValues rest)

def toFields : List (Value × Content) → Except Failure Value.Fields
  | [] => .ok []
  | (key, content) :: rest => do
    let name ← key.plain
    let value ← content.toValue
    return (name, value) :: (← toFields rest)

end

end Content

def unifyLines : Text → Text
  | [] => []
  | '\r' :: '\n' :: rest => '\n' :: unifyLines rest
  | char :: rest => (if char = '\r' then '\n' else char) :: unifyLines rest

def allowedRanges : List (Nat × Nat) :=
  [(0x09, 0x0A), (0x0D, 0x0D), (0x20, 0x7E), (0x85, 0x85), (0xA0, 0xFFFD), (0x10000, 0x10FFFF)]

/-- What the document in a text says; a text without a document says nothing. -/
def read (text : Text) : Except Failure Content := do
  let text := unifyLines text
  if text.all fun char => Text.inRanges allowedRanges char.toNat then
    match ← Node.ofTokens (← Token.ofText text) with
    | none => return .scalar .empty
    | some node =>
      match Content.ofNode 0 node with
      | .ok content => return content
      | .error fault => .error fault.cause
  else .error .badMarkup

end Worksheet.Yaml
