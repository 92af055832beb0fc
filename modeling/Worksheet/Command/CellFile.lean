import Worksheet.Command.Project
import Worksheet.Sheet.Basic

/-! Files of cells: a YAML mapping from positions to cells. A position is a row and a column with a comma between them
or the name of a cell. A cell is given by its fields or by its value alone. -/

namespace Worksheet.Command

def sheetKey (key : Text) : Except Ending Text :=
  let broken {α : Type} : Except Failure α → Except Ending α
    | .ok found => .ok found
    | .error cause => .error (.broken cause)
  if key.contains ',' then
    match Position.ofKey key with
    | .ok position => broken position.key
    | .error _ => .error (.complaint (.cellKey key))
  else
    match Address.readKey key with
    | .ok (some key) => .ok key
    | .ok none => .error (.complaint (.cellKey key))
    | .error cause => .error (.broken cause)

def cellFields : List (Value × Yaml.Content) → Except Failure Value.Fields
  | [] => .ok []
  | (.text name, content) :: rest => do
    let value ← content.toValue
    return (name, value) :: (← cellFields rest)
  | _ => .error .invalidField

def cellOf : Yaml.Content → Except Failure Cell
  | .mapping pairs => do Cell.ofFields (← cellFields pairs)
  | content => do return { value := ← content.toValue }

def putCells (sheet : Sheet) : List (Value × Yaml.Content) → Except Ending Sheet
  | [] => .ok sheet
  | (key, content) :: rest =>
    match key.plain with
    | .error cause => .error (.broken cause)
    | .ok text =>
      match sheetKey (Text.strip text) with
      | .error ending => .error ending
      | .ok key =>
        match cellOf content with
        | .error cause => .error (.broken cause)
        | .ok cell => putCells (sheet.put key (.cell cell)) rest

def sheetOfText (path : Path) (text : Text) : Except Ending Sheet :=
  match Yaml.read text with
  | .error .badMarkup => .error (.complaint (.cells path .badMarkup))
  | .error cause => .error (.broken cause)
  | .ok (.mapping pairs) => putCells [] pairs
  | .ok (.sequence items) => if items.isEmpty then .ok [] else .error (.complaint (.noCells path))
  | .ok (.scalar value) => if value.isPresent then .error (.complaint (.noCells path)) else .ok []

end Worksheet.Command
