import Worksheet.Formula.Comparison
import Worksheet.Formula.Expression

/-! Arguments of function calls. Text is read as the first of these that it is: a range, a cell, a comparison, a
nested formula that starts like a call, a number, a quoted literal, arithmetic over numbers and cells, and otherwise
plain text. What cannot be read at all keeps the cause of the failure in its place, so that it shows only when the
argument is evaluated. -/

namespace Worksheet

inductive Argument where
  | range (span : Span)
  | cell (position : Position)
  | comparison (left : Argument) (relation : Relation) (right : Argument)
  /-- A nested call; `source` is the formula that it is by itself. -/
  | call (source name : Text) (arguments : List Argument)
  /-- A nested formula that starts like a call and is none. -/
  | formula (source : Text) (expression : Except Failure Expression)
  | constant (value : Value)
  | arithmetic (expression : Expression)
  | invalid (failure : Failure)

def callStart? (text : Text) : Option (Text × Text) :=
  match text.dropWhile Text.isLetter with
  | '(' :: rest =>
    if (text.takeWhile Text.isLetter).isEmpty then none else some (text.takeWhile Text.isLetter, rest)
  | _ => none

/-- The name of a function, in capitals, and the text of its arguments, if the text is one call as a
whole. -/
def callParts? (text : Text) : Option (Text × Text) :=
  match callStart? text with
  | some (letters, rest) =>
    if Scan.closesAtEnd Scan.start text then some (Text.upper letters, rest.dropLast) else none
  | none => none

theorem length_callStart_lt {text letters rest : Text} (found : callStart? text = some (letters, rest)) :
    rest.length < text.length := by
  have shorter := (List.dropWhile_sublist (l := text) Text.isLetter).length_le
  unfold callStart? at found
  split at found
  · rename_i after split
    split at found
    · cases found
    · simp only [Option.some.injEq, Prod.mk.injEq] at found
      obtain ⟨_, rfl⟩ := found
      rw [split] at shorter
      simp only [List.length_cons] at shorter
      omega
  · cases found

theorem length_callParts_lt {text name inner : Text} (found : callParts? text = some (name, inner)) :
    inner.length < text.length := by
  unfold callParts? at found
  split at found
  · rename_i letters rest start
    split at found
    · simp only [Option.some.injEq, Prod.mk.injEq] at found
      obtain ⟨_, rfl⟩ := found
      have shorter := length_callStart_lt start
      simp only [List.length_dropLast]
      omega
    · cases found
  · cases found

namespace Argument

def ofResult {α : Type} (read : α → Argument) : Except Failure α → Argument
  | .ok value => read value
  | .error failure => .invalid failure

def isArithmeticOperator (token : Token) : Bool :=
  token == ['+'] || token == ['-'] || token == ['*'] || token == ['/']

def isArithmeticOperand (token : Token) : Except Failure Bool := do
  if (← Number.readWhole token).isSome then return true else return Address.isCellName token

def alternates : List Token → Except Failure Bool
  | [] => .ok false
  | [operand] => isArithmeticOperand operand
  | operand :: operator :: rest => do
    if ← isArithmeticOperand operand then
      if isArithmeticOperator operator then alternates rest else return false
    else return false

def isArithmetic (tokens : List Token) : Except Failure Bool :=
  if tokens.length < 3 ∨ tokens.length % 2 = 0 then .ok false else alternates tokens

def ofPlain (text : Text) : Except Failure Argument := do
  match ← Number.readWhole text with
  | some number => return .constant (.number number)
  | none =>
    if Token.isQuoted text then return .constant (.text (Token.unquote text))
    else if ← isArithmetic (Token.ofText text) then return .arithmetic (← Expression.ofText text)
    else return .constant (.text text)

def ofSpanParts (parts : Address.SpanParts) : Argument :=
  ofResult range
    (Address.rangeSpan parts.firstLetters parts.firstDigits parts.lastLetters parts.lastDigits)

def ofTrimmed (text : Text) : Argument :=
  match Address.spanParts? text with
  | some parts => ofSpanParts parts
  | none =>
    match Address.cellParts? text with
    | some (letters, digits) => ofResult cell (Address.ofParts letters digits)
    | none =>
      match _compared : Comparison.find? text with
      | some found =>
        .comparison (ofTrimmed (Text.strip found.left)) found.relation (ofTrimmed (Text.strip found.right))
      | none =>
        if (callStart? text).isSome then
          match _called : callParts? text with
          | some (name, inner) =>
            .call ('=' :: text) name
              ((Scan.splitArguments inner).attach.map fun ⟨piece, _⟩ => ofTrimmed (Text.strip piece))
          | none => .formula ('=' :: text) (Expression.ofText text)
        else ofResult id (ofPlain text)
termination_by text.length
decreasing_by
  · have shorter := Comparison.length_left_lt _compared
    have stripped := Text.length_strip_le found.left
    omega
  · have shorter := Comparison.length_right_lt _compared
    have stripped := Text.length_strip_le found.right
    omega
  · rename_i member
    have bound := Scan.length_le_of_mem_splitArguments member
    have shorter := length_callParts_lt _called
    have stripped := Text.length_strip_le piece
    omega

def ofText (text : Text) : Argument :=
  ofTrimmed (Text.strip text)

end Argument

/-- What is typed into a cell: plain text, or after an equals sign nothing, a call or an expression. -/
inductive Formula where
  | plain
  | blank
  | call (name : Text) (arguments : List Argument)
  | expression (expression : Except Failure Expression)

namespace Formula

def ofText : Text → Formula
  | '=' :: rest =>
    let body := Text.strip rest
    match callParts? body with
    | some (name, inner) => .call name ((Scan.splitArguments inner).map Argument.ofText)
    | none => if body.isEmpty then .blank else .expression (Expression.ofText body)
  | _ => .plain

end Formula

end Worksheet
