import Worksheet.Formula.Token
import Worksheet.Value.Coercion

/-! Arithmetic expressions: operands joined by `+`, `-`, `*` and `/`, the latter two binding tighter and all of them
associating to the left. A list of tokens is an expression exactly when operands and operators alternate in it,
starting and ending with an operand. -/

namespace Worksheet

inductive Operator where
  | add
  | subtract
  | multiply
  | divide
  deriving DecidableEq, Repr

inductive Expression where
  | number (token : Token)
  | quoted (token : Token)
  | cell (token : Token)
  | word (token : Token)
  | binary (left : Expression) (operator : Operator) (right : Expression)

namespace Operator

def text : Operator → Text
  | add => ['+']
  | subtract => ['-']
  | multiply => ['*']
  | divide => ['/']

/-- A quotient by zero is an infinity with the sign of the quotient, or no number for zero by zero. -/
def divideNumbers (left right : Number) : Except Failure Number :=
  if right.isZero then
    if left.isZero then .ok (.double Double.notANumber)
    else do
      if ← left.isNaN then return .double Double.notANumber
      else return .double (Double.withSign (left.isNegative != right.isNegative) Double.infinity)
  else left.div right

def apply (left right : Number) : Operator → Except Failure Number
  | add => left.add right
  | subtract => left.sub right
  | multiply => left.mul right
  | divide => divideNumbers left right

end Operator

namespace Expression

inductive Role where
  | operand (expression : Expression)
  | sign (operator : Operator)
  | scale (operator : Operator)
  | none

def role (token : Token) : Except Failure Role := do
  match ← Token.kind token with
  | .sign => return .sign (if token = ['+'] then .add else .subtract)
  | .scale => return .scale (if token = ['*'] then .multiply else .divide)
  | .number => return .operand (.number token)
  | .quoted => return .operand (.quoted token)
  | .cell => return .operand (.cell token)
  | .word => return .operand (.word token)
  | .other => return .none

structure Partial where
  sum : Option (Expression × Operator)
  term : Expression

def Partial.close (read : Partial) : Expression :=
  match read.sum with
  | none => read.term
  | some (sum, operator) => .binary sum operator read.term

def Partial.addTerm (read : Partial) (operator : Operator) (operand : Expression) : Partial :=
  ⟨some (read.close, operator), operand⟩

def Partial.addFactor (read : Partial) (operator : Operator) (operand : Expression) : Partial :=
  { read with term := .binary read.term operator operand }

def roleAt (token : Token) : Except Failure Role :=
  match role token with
  | .ok found => .ok found
  | .error _ => .error (.syntaxError none)

def readOperand (index : Nat) (token : Token) (join : Expression → Partial) : Except Failure Partial := do
  match ← roleAt token with
  | .operand expression => return join expression
  | _ => throw (.syntaxError (some index))

/-- Reads pairs of an operator and an operand; `index` is that of the first token given. -/
def readPairs (read : Partial) (index : Nat) : List Token → Except Failure Expression
  | [] => .ok read.close
  | [token] => do
    let _ ← roleAt token
    throw (.syntaxError (some index))
  | token :: operand :: rest => do
    match ← roleAt token with
    | .sign operator =>
      readPairs (← readOperand (index + 1) operand (read.addTerm operator)) (index + 2) rest
    | .scale operator =>
      readPairs (← readOperand (index + 1) operand (read.addFactor operator)) (index + 2) rest
    | _ => throw (.syntaxError (some index))

def ofTokens : List Token → Except Failure Expression
  | [] => .error (.syntaxError (some 0))
  | token :: rest => do
    readPairs (← readOperand 0 token fun expression => ⟨none, expression⟩) 1 rest

def ofText (text : Text) : Except Failure Expression :=
  ofTokens (Token.foldCalls (Token.ofText text))

/-- The number that a cell is in arithmetic: zero unless its value is a number or begins with one. -/
def cellNumber (value : Value) : Except Failure Number :=
  match value with
  | .empty => .ok Number.zero
  | .number found => .ok found
  | other => do
    match ← Number.readPrefix (← other.toText) with
    | some found => return found
    | none => return Number.zero

def evaluate (view : View) : Expression → Except Failure Value
  | number token => do
    match ← Number.readPrefix token with
    | some found => return .number found
    | none => return .empty
  | quoted token => .ok (.text (Token.unquote token))
  | cell token => do
    match ← Address.readCell token with
    | some position => return .number (← cellNumber (← view position))
    | none => return .number Number.zero
  | word token => .ok (.text token)
  | binary left operator right => do
    let leftNumber ← (← left.evaluate view).toOperand
    let rightNumber ← (← right.evaluate view).toOperand
    return .number (← operator.apply leftNumber rightNumber)

end Expression

end Worksheet
