import Worksheet.Text.Glob
import Worksheet.Value.Coercion

/-! Criteria of the conditional functions. A criterion may begin with a relation: the order relations compare numbers,
the others compare texts. Otherwise a text with wildcards is a pattern for the whole text of a value, and any other
text has to be that text up to case. -/

namespace Worksheet

inductive Order where
  | less
  | lessOrEqual
  | greater
  | greaterOrEqual

def Order.holds (left right : Number) : Order → Bool
  | less => left.lt right
  | lessOrEqual => left.le right
  | greater => left.gt right
  | greaterOrEqual => left.ge right

inductive Criterion where
  | ordered (order : Order) (threshold : Number)
  | equals (text : Text)
  | differs (text : Text)
  | fits (pattern : Text.Glob)
  | reads (lowered : Text)

namespace Criterion

def ordering (order : Order) (operand : Text) : Except Failure Criterion := do
  return .ordered order (← (Value.text operand).toNumber)

def ofText : Text → Except Failure Criterion
  | '>' :: '=' :: operand => ordering .greaterOrEqual operand
  | '<' :: '=' :: operand => ordering .lessOrEqual operand
  | '<' :: '>' :: operand => .ok (.differs operand)
  | '!' :: '=' :: operand => .ok (.differs operand)
  | '>' :: operand => ordering .greater operand
  | '<' :: operand => ordering .less operand
  | '=' :: operand => .ok (.equals operand)
  | text =>
    if Text.hasWildcards text then .ok (.fits (Text.Glob.ofText text))
    else .ok (.reads (Text.lower text))

def ofValue (value : Value) : Except Failure Criterion := do
  ofText (← value.toText)

def holds (criterion : Criterion) (value : Value) : Except Failure Bool :=
  match criterion with
  | ordered order threshold => do return order.holds (← value.toNumber) threshold
  | equals text => do return (← value.toText) == text
  | differs text => do return (← value.toText) != text
  | fits pattern => do return pattern.fits (← value.toText)
  | reads lowered => do return Text.lower (← value.toText) == lowered

end Criterion

end Worksheet
