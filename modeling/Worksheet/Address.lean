import Worksheet.Number.Literal
import Worksheet.Text.Basic
import Worksheet.Text.Case
import Worksheet.Value

/-! Positions in the grid and the names that formulas use for them. Rows and columns count from zero; in a name the
row counts from one and the column is written in letters, a numeral in base 26 whose digits run from one to
twenty-six. A sheet keys its cells by row and column in decimal. -/

namespace Worksheet

structure Position where
  row : Int
  column : Int
  deriving DecidableEq

/-- A rectangle of cells, corners included. -/
structure Span where
  first : Position
  last : Position
  deriving DecidableEq

/-- What formulas see of a sheet: the value at every position. -/
abbrev View := Position → Except Failure Value

namespace Text

def underscoreSplit : Text → List Text
  | text => splitOn ['_'] text

/-- An integer in decimal with an optional sign; white space around it and single underscores between
digits do not count. -/
def readInt (text : Text) : Except Failure Int :=
  let (negative, unsigned) := Literal.readSign (strip text)
  let groups := underscoreSplit unsigned
  if groups.all fun digits => !digits.isEmpty && digits.all isDigit then do
    let magnitude ← readNat groups.flatten
    return if negative then -(magnitude : Int) else magnitude
  else .error .unreadable

end Text

namespace Address

def letter (index : Nat) : Char :=
  Char.ofNat (65 + index)

def lettersOfNat (number : Nat) : Text :=
  if number = 0 then []
  else lettersOfNat ((number - 1) / 26) ++ [letter ((number - 1) % 26)]
termination_by number
decreasing_by omega

def columnName (column : Int) : Text :=
  lettersOfNat (column + 1).toNat

def columnOfName (name : Text) : Int :=
  (Text.upper name).foldl (fun index char => index * 26 + ((char.toNat : Int) - 64)) 0 - 1

/-- Letters and digits of a cell name, after which one line feed may stand. -/
def cellParts? (text : Text) : Option (Text × Text) :=
  let letters := text.takeWhile Text.isLetter
  let digits := Text.dropFinalNewline (text.dropWhile Text.isLetter)
  if letters.isEmpty ∨ digits.isEmpty ∨ ¬digits.all Text.isDigit then none
  else some (letters, digits)

def isCellName (text : Text) : Bool :=
  (cellParts? text).isSome

def ofParts (letters digits : Text) : Except Failure Position := do
  let row ← Text.readNat digits
  return ⟨row - 1, columnOfName letters⟩

def readCell (text : Text) : Except Failure (Option Position) :=
  match cellParts? text with
  | some (letters, digits) => (ofParts letters digits).map some
  | none => .ok none

structure SpanParts where
  firstLetters : Text
  firstDigits : Text
  lastLetters : Text
  lastDigits : Text

def spanParts? (text : Text) : Option SpanParts :=
  match Text.splitOn [':'] (Text.dropFinalNewline text) with
  | [first, last] =>
    match cellParts? first, cellParts? last with
    | some (firstLetters, firstDigits), some (lastLetters, lastDigits) =>
      if (first ++ last).contains '\n' then none
      else some ⟨firstLetters, firstDigits, lastLetters, lastDigits⟩
    | _, _ => none
  | _ => none

def readSpan (text : Text) : Except Failure (Option Span) :=
  match spanParts? (Text.strip text) with
  | some parts => do
    let first ← ofParts parts.firstLetters parts.firstDigits
    let last ← ofParts parts.lastLetters parts.lastDigits
    return some ⟨first, last⟩
  | none => .ok none

/-- In a range only the first letter of a column name counts. -/
def rangeColumn (letters : Text) : Except Failure Int :=
  match letters with
  | [] => .error .noSuchPosition
  | first :: _ =>
    match Text.upperChar first with
    | [capital] => .ok ((capital.toNat : Int) - 65)
    | _ => .error .wrongKind

def rangeSpan (firstLetters firstRow lastLetters lastRow : Text) : Except Failure Span := do
  let firstColumn ← rangeColumn firstLetters
  let lastColumn ← rangeColumn lastLetters
  let firstRow ← Text.readInt firstRow
  let lastRow ← Text.readInt lastRow
  return ⟨⟨firstRow - 1, firstColumn⟩, ⟨lastRow - 1, lastColumn⟩⟩

end Address

namespace Position

def name (position : Position) : Except Failure Text := do
  return Address.columnName position.column ++ (← Text.writeInt (position.row + 1))

def key (position : Position) : Except Failure Text := do
  let row ← Text.writeInt position.row
  return row ++ ',' :: (← Text.writeInt position.column)

def ofKey (key : Text) : Except Failure Position :=
  match Text.splitOn [','] key with
  | [row, column] => do
    let row ← Text.readInt row
    return ⟨row, ← Text.readInt column⟩
  | _ => .error .unreadable

def before (left right : Position) : Bool :=
  left.row < right.row || (left.row == right.row && left.column ≤ right.column)

end Position

def Address.readKey (name : Text) : Except Failure (Option Text) := do
  match ← Address.readCell name with
  | some position => return some (← position.key)
  | none => return none

namespace Span

def indices (first last : Int) : List Int :=
  (List.range (last - first + 1).toNat).map fun (offset : Nat) => first + offset

/-- The positions of a span in row-major order; none when its end lies before its start. -/
def positions (span : Span) : List Position :=
  (indices span.first.row span.last.row).flatMap fun row =>
    (indices span.first.column span.last.column).map fun column => ⟨row, column⟩

end Span

end Worksheet
