import Worksheet.Number.Written
import Worksheet.Text.Printable
import Worksheet.Value.Coercion

/-! Values as they are shown in messages and listings. Standing alone, a text is shown as it is; inside a list or a
record it stands in quotes. -/

namespace Worksheet.Value

mutual

def listed : Value → Except Failure Text
  | empty => .ok "None".toList
  | bool value => .ok (if value then "True".toList else "False".toList)
  | number value => value.write
  | text value => .ok (Text.quoted value)
  | error code => .ok (Text.quoted code.text)
  | list values => do return '[' :: Text.join ", ".toList (← listedAll values) ++ [']']
  | record fields => do return '{' :: Text.join ", ".toList (← listedFields fields) ++ ['}']
  | date value => .ok (dateText value)
  | moment value => .ok (momentText ' ' value)

def listedAll : List Value → Except Failure (List Text)
  | [] => .ok []
  | value :: rest => do
    let first ← value.listed
    return first :: (← listedAll rest)

def listedFields : List (Text × Value) → Except Failure (List Text)
  | [] => .ok []
  | (name, value) :: rest => do
    let first ← value.listed
    return (Text.quoted name ++ ": ".toList ++ first) :: (← listedFields rest)

end

def plain : Value → Except Failure Text
  | text value => .ok value
  | error code => .ok code.text
  | other => other.listed

def kindName : Value → Text
  | empty => "NoneType".toList
  | bool _ => "bool".toList
  | number (.integer _) => "int".toList
  | number (.double _) => "float".toList
  | text _ => "str".toList
  | error _ => "str".toList
  | list _ => "list".toList
  | record _ => "dict".toList
  | date _ => "date".toList
  | moment _ => "datetime".toList

end Worksheet.Value
