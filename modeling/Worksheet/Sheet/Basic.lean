import Worksheet.Address
import Worksheet.Formula.Evaluation
import Worksheet.Sheet.Cell

/-! Sheets: cells under their keys, in the order in which the keys came in. A cell may still be the record that it was
read from; it becomes a cell when the sheet is edited. Editing gives a new sheet. -/

namespace Worksheet

inductive Entry where
  | record (fields : Value.Fields)
  | cell (cell : Cell)

namespace Entry

def toCell : Entry → Except Failure Cell
  | record fields => Cell.ofFields fields
  | cell found => .ok found

/-- What a formula sees of an entry: nothing while its error is set. -/
def visibleValue : Entry → Value
  | record fields =>
    if ((Field.lookup? fields "error").getD .empty).isPresent then .empty
    else (Field.lookup? fields "value").getD .empty
  | cell found => if found.error?.isSome then .empty else found.value

def toFields : Entry → Value.Fields
  | record fields => fields
  | cell found => found.toFields

end Entry

abbrev Sheet := List (Text × Entry)

namespace Sheet

def lookup? (sheet : Sheet) (key : Text) : Option Entry :=
  (sheet.find? fun entry => entry.1 == key).map (·.2)

def put (key : Text) (entry : Entry) : Sheet → Sheet
  | [] => [(key, entry)]
  | first :: rest => if first.1 == key then (key, entry) :: rest else first :: put key entry rest

def valueAt (sheet : Sheet) (key : Text) : Value :=
  match sheet.lookup? key with
  | some entry => entry.visibleValue
  | none => .empty

def view (sheet : Sheet) : View :=
  fun position => do return sheet.valueAt (← position.key)

def toCells : Sheet → Except Failure Sheet
  | [] => .ok []
  | (key, entry) :: rest => do
    let cell ← entry.toCell
    return (key, .cell cell) :: (← toCells rest)

def evaluated (setting : Setting) (sheet : Sheet) (style : Value) (source : Text) : Outcome Cell := do
  let answer ← evaluate setting sheet.view source
  let display ← Outcome.ofExcept answer.valueOf.toText
  pure
    { value := answer.valueOf
      formula := some source
      displayValue := some display
      error := answer.errorOf.map ErrorCode.text
      style := style }

def isFormula : Text → Bool
  | '=' :: _ => true
  | _ => false

def typed (setting : Setting) (sheet : Sheet) (style : Value) (text : Text) : Outcome Cell :=
  if isFormula text then evaluated setting sheet style text
  else .succeed { value := .text text, style := style }

def styleAt (sheet : Sheet) (key : Text) : Except Failure Value :=
  match sheet.lookup? key with
  | some entry => do return (← entry.toCell).style
  | none => .ok .empty

/-- Types a text into the cell at a position. Of the cell before only the style remains. -/
def update (setting : Setting) (sheet : Sheet) (position : Position) (text : Text) : Outcome Sheet := do
  let key ← Outcome.ofExcept position.key
  let style ← Outcome.ofExcept (sheet.styleAt key)
  let cell ← typed setting sheet style text
  let cells ← Outcome.ofExcept sheet.toCells
  pure (put key (.cell cell) cells)

def display (sheet : Sheet) (position : Position) : Except Failure Text := do
  match sheet.lookup? (← position.key) with
  | some entry => (← entry.toCell).shown
  | none => return []

end Sheet

end Worksheet
