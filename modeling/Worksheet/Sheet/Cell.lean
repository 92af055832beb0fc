import Worksheet.Value.Coercion
import Worksheet.Value.Field

/-! Cells and the records that they are read from. A record names the fields of a cell; texts have to be texts, spans
have to be whole numbers in some form, and unknown fields are kept as they are. -/

namespace Worksheet

structure Cell where
  value : Value := .empty
  formula : Option Text := none
  displayValue : Option Text := none
  error : Option Text := none
  style : Value := .empty
  format : Value := .empty
  border : Value := .empty
  rowSpan : Option Int := none
  columnSpan : Option Int := none
  extra : Value.Fields := []

namespace Cell

/-- The cell that a record describes. Some fields have two names, of which the first is preferred. -/
def ofFields (fields : Value.Fields) : Except Failure Cell := do
  let (display, displayName) := Field.either fields "displayValue" "display_value"
  let (rows, rowsName) := Field.either fields "rowSpan" "row_span"
  let (columns, columnsName) := Field.either fields "colSpan" "col_span"
  let known := ["value", "formula", "error", "style", "format", "border"].map String.toList
    ++ [displayName, rowsName, columnsName]
  return {
    value := (Field.lookup? fields "value").getD .empty
    formula := ← Field.readText? ((Field.lookup? fields "formula").getD .empty)
    displayValue := ← Field.readText? display
    error := ← Field.readText? ((Field.lookup? fields "error").getD .empty)
    style := (Field.lookup? fields "style").getD .empty
    format := (Field.lookup? fields "format").getD .empty
    border := (Field.lookup? fields "border").getD .empty
    rowSpan := ← Field.readInt? rows
    columnSpan := ← Field.readInt? columns
    extra := fields.filter fun field => !known.contains field.1 }

def textField (name : String) (text : Option Text) : Value.Fields :=
  match text with
  | some text => [(name.toList, .text text)]
  | none => []

def intField (name : String) (number : Option Int) : Value.Fields :=
  match number with
  | some number => [(name.toList, .integer number)]
  | none => []

def valueField (name : String) (value : Value) : Value.Fields :=
  if value.isMissing then [] else [(name.toList, value)]

def toFields (cell : Cell) : Value.Fields :=
  valueField "value" cell.value ++ textField "formula" cell.formula
    ++ textField "displayValue" cell.displayValue ++ textField "error" cell.error
    ++ valueField "style" cell.style ++ valueField "format" cell.format
    ++ valueField "border" cell.border ++ intField "rowSpan" cell.rowSpan
    ++ intField "colSpan" cell.columnSpan ++ cell.extra.filter fun field => !field.2.isMissing

def formula? (cell : Cell) : Option Text :=
  cell.formula.filter (!·.isEmpty)

def error? (cell : Cell) : Option Text :=
  cell.error.filter (!·.isEmpty)

/-- The text shown for a cell: its error, else its display value, else its value. -/
def shown (cell : Cell) : Except Failure Text :=
  match cell.error?, cell.displayValue with
  | some error, _ => .ok error
  | none, some display => .ok display
  | none, none => cell.value.toText

end Cell

end Worksheet
