import Worksheet.Sheet.Basic
import Worksheet.Text.Basic
import Worksheet.Text.Utf8

/-! Sheets as tables of text, which a library writes and reads. In the written form a row ends with a line feed,
fields are parted by a delimiter of one byte, and a field that holds the delimiter, a quote or a line break stands in
quotes, with its own quotes doubled. -/

namespace Worksheet

/-- Named columns of equal length; a cell without text is missing. -/
structure Table where
  names : List Text
  rows : List (List (Option Text))

namespace Table

def delimiterOf (text : Text) : Except Failure Char :=
  match text with
  | [char] => if char.toNat < 128 then .ok char else .error .unreadable
  | _ => .error .unreadable

def needsQuotes (delimiter : Char) (field : Text) : Bool :=
  field.any fun char => char == delimiter || char == '"' || char == '\n' || char == '\r'

def quoted (field : Text) : Text :=
  '"' :: Text.replaceAll ['"'] ['"', '"'] field ++ ['"']

def writeField (delimiter : Char) (field : Option Text) : Text :=
  let text := field.getD []
  if needsQuotes delimiter text then quoted text else text

def writeRow (delimiter : Char) (row : List (Option Text)) : Text :=
  Text.join [delimiter] (row.map (writeField delimiter)) ++ ['\n']

def write (delimiter : Char) (table : Table) : Text :=
  if table.names.isEmpty then [] else table.rows.flatMap (writeRow delimiter)

/-- Where reading stands: at the start of a field, in a plain one, inside the quotes of one or behind a
quote that may have closed one. -/
inductive FieldState where
  | fresh
  | plain
  | inside
  | closing

/-- A field read so far, reversed, and whether it began with a quote. -/
structure Reading where
  state : FieldState
  field : Text
  wasQuoted : Bool

def Reading.start : Reading := ⟨.fresh, [], false⟩

/-- A carriage return at the end of a line belongs to the line break, unless it stands in quotes. -/
def Reading.lineField (reading : Reading) : Text :=
  match reading.state, reading.field with
  | .closing, field => field.reverse
  | _, '\r' :: rest => rest.reverse
  | _, field => field.reverse

def readRows (delimiter : Char) (reading : Reading) (row : List Text) : Text → List (List Text)
  | [] =>
    match reading.state, row with
    | .fresh, [] => []
    | _, _ => [(reading.lineField :: row).reverse]
  | char :: rest =>
    match reading.state with
    | .inside =>
      if char = '"' then readRows delimiter { reading with state := .closing } row rest
      else readRows delimiter { reading with field := char :: reading.field } row rest
    | .closing =>
      if char = '"' then readRows delimiter ⟨.inside, char :: reading.field, true⟩ row rest
      else if char = delimiter then
        readRows delimiter .start (reading.field.reverse :: row) rest
      else if char = '\n' then (reading.lineField :: row).reverse :: readRows delimiter .start [] rest
      else readRows delimiter ⟨.plain, char :: reading.field, true⟩ row rest
    | .fresh =>
      if char = '"' then readRows delimiter ⟨.inside, [], true⟩ row rest
      else if char = delimiter then readRows delimiter .start ([] :: row) rest
      else if char = '\n' then
        (if row.isEmpty then [] else ([] :: row).reverse) :: readRows delimiter .start [] rest
      else readRows delimiter ⟨.plain, [char], false⟩ row rest
    | .plain =>
      if char = delimiter then readRows delimiter .start (reading.field.reverse :: row) rest
      else if char = '\n' then
        (if row.isEmpty ∧ reading.lineField.isEmpty then [] else (reading.lineField :: row).reverse)
          :: readRows delimiter .start [] rest
      else readRows delimiter { reading with field := char :: reading.field } row rest

def byteOrderMark : Char := Char.ofNat 0xFEFF

/-- A text as it is read, which is without the byte order mark that it may begin with. -/
def withoutMark (text : Text) : Text :=
  if text.head? = some byteOrderMark then text.drop 1 else text

def fieldOf (text : Text) : Option Text :=
  if text.isEmpty then none else some text

def fillRow (width : Nat) (row : List Text) : List (Option Text) :=
  row.map fieldOf ++ List.replicate (width - row.length) none

/-- The rows of a text. The first row that is not empty sets the number of fields: no row may have more, and
with several fields empty rows are passed over. -/
def read (delimiter : Char) (text : Text) : Except Failure (List (List (Option Text))) :=
  if (withoutMark text).isEmpty then .error .noData
  else
    let rows := readRows delimiter .start [] (withoutMark text)
    match rows.find? (!·.isEmpty) with
    | none => .ok []
    | some first =>
      if rows.any fun row => row.length > first.length then .error .raggedTable
      else .ok ((if first.length > 1 then rows.filter (!·.isEmpty) else rows).map (fillRow first.length))

/-- What sheets ask of a library for written tables; the text before the table or the text is the delimiter. -/
structure Library where
  write : Text → Table → Except Failure Text
  read : Text → Text → Except Failure (List (List (Option Text)))

def Library.standard : Library where
  write delimiter table := return table.write (← delimiterOf delimiter)
  read delimiter text := do Table.read (← delimiterOf delimiter) text

end Table

namespace Sheet

def entryOfField (field : Text) : Entry :=
  if isFormula field then .cell { formula := some field } else .cell { value := .text field }

def rowCells (row column : Nat) : List (Option Text) → Sheet
  | [] => []
  | none :: rest => rowCells row (column + 1) rest
  | some text :: rest =>
    if text.isEmpty then rowCells row (column + 1) rest
    else
      (Text.ofNat row ++ ',' :: Text.ofNat column, entryOfField text) :: rowCells row (column + 1) rest

def rowsCells (row : Nat) : List (List (Option Text)) → Sheet
  | [] => []
  | fields :: rest => rowCells row 0 fields ++ rowsCells (row + 1) rest

/-- The sheet that a written table holds; fields that start with an equals sign are formulas. -/
def ofTableText (library : Table.Library) (delimiter text : Text) : Except Failure Sheet := do
  return rowsCells 0 (← library.read delimiter text)

def positionsOf : Sheet → Except Failure (List Position)
  | [] => .ok []
  | (key, _) :: rest => do
    let position ← Position.ofKey key
    return position :: (← positionsOf rest)

def extent (numbers : List Int) : Nat :=
  match numbers with
  | [] => 0
  | first :: rest => (rest.foldl max first + 1).toNat

def shownAt (sheet : Sheet) (row column : Nat) : Except Failure (Option Text) := do
  let text ← sheet.display ⟨row, column⟩
  return if text.isEmpty then none else some text

/-- What is shown from the first cell to the last row and the last column that hold a cell. -/
def toTable (sheet : Sheet) : Except Failure Table := do
  let positions ← sheet.positionsOf
  let width := extent (positions.map (·.column))
  let height := if width = 0 then 0 else extent (positions.map (·.row))
  let columns ← (List.range width).mapM fun column => (List.range height).mapM fun row =>
    sheet.shownAt row column
  let rows := (List.range height).map fun row => columns.map fun column => column.getD row none
  return ⟨(List.range width).map fun (column : Nat) => Address.columnName column, rows⟩

def toTableText (library : Table.Library) (delimiter : Text) (sheet : Sheet) : Except Failure Text := do
  library.write delimiter (← sheet.toTable)

end Sheet

end Worksheet
