import Worksheet.Builtin.Aggregate
import Worksheet.Builtin.Arithmetic
import Worksheet.Builtin.Calendar
import Worksheet.Builtin.Logic
import Worksheet.Builtin.Lookup
import Worksheet.Builtin.Text
import Worksheet.Formula.Argument
import Worksheet.Outcome

/-! Evaluation of formulas over a view of a sheet. A formula always has an answer: a value, or an error code. What
fails in a formula is reported as an event and answered with a code there, so that a nested formula does not fail the
one around it unless it is nested too deep. Any other argument that fails does. -/

namespace Worksheet

namespace Builtin

def all : List Builtin :=
  aggregates ++ arithmetic ++ lookups ++ logic ++ texts ++ dates

def find? (name : Text) : Option Builtin :=
  let key := Text.upper name
  all.find? (·.name == key)

def sortedByName : List Builtin :=
  all.mergeSort fun left right => Value.textOrder left.name right.name != .gt

def checkNew (name : Text) : Except Failure Unit :=
  if (find? name).isSome then .error .unreadable else .ok ()

end Builtin

inductive Answer where
  | value (value : Value)
  | error (code : ErrorCode)

namespace Answer

def ofValue : Value → Answer
  | .error code => error code
  | other => value other

def valueOf : Answer → Value
  | value found => found
  | error _ => .empty

def errorOf : Answer → Option ErrorCode
  | value _ => none
  | error code => some code

/-- What a call sees of an argument that is a formula itself: an error as its code or as nothing. -/
def asArgument (keepsErrors : Bool) : Answer → Value
  | value found => found
  | error code => if keepsErrors then .error code else .empty

end Answer

/-- How formulas are evaluated: the depth of nesting that they stay below, and the surroundings. -/
structure Setting where
  maxDepth : Int
  ambient : Ambient

def Setting.defaultDepth : Int := 64

namespace Failure

def message : Failure → Text
  | badCall function complaint => (badCall function complaint).label ++ ": ".toList ++ complaint
  | tooDeep depth limit =>
    "Formula nesting depth ".toList ++ Text.ofInt depth ++ " exceeds limit of ".toList ++ Text.ofInt limit
  | other => other.label

def eventCode : Failure → Text
  | syntaxError _ => "formula_parse_error".toList
  | badCall _ _ => "formula_function_error".toList
  | tooDeep _ _ => "formula_depth_error".toList
  | _ => "formula_internal_error".toList

def event (source : Text) : Failure → Event
  | tooDeep depth limit =>
    { level := .warning
      kind := .formulaDepthExceeded
      context := [("formula".toList, .text source), ("depth".toList, .integer depth),
        ("limit".toList, .integer limit)]
      message := (tooDeep depth limit).message
      errorCode := some (tooDeep depth limit).eventCode }
  | other =>
    { level := .error
      kind := .formulaFailed
      context := [("formula".toList, .text source)]
      message := other.message
      errorCode := some other.eventCode }

end Failure

def unknownFunction (name : Text) : Event :=
  { level := .warning
    kind := .formulaUnknownFunction
    context := [("function".toList, .text name)]
    message := "Unknown function: ".toList ++ name
    errorCode := some "formula_unknown_function".toList }

def Builtin.answer (builtin : Builtin) (ambient : Ambient) (values : List Value) : Except Failure Answer :=
  let values := if builtin.flattens then Value.flatten values else values
  match if builtin.acceptsErrors then none else Value.firstError (Value.flatten values) with
  | some code => .ok (.error code)
  | none => do return Answer.ofValue (← builtin.run ambient values)

namespace Formula

/-- What a failure makes of a formula at a depth of nesting: it is reported and answered with a code, but
an overrun of the depth goes up to the outermost formula. -/
def onFailure (source : Text) (depth : Int) : Failure → Outcome Answer
  | .tooDeep reached limit =>
    if depth > 0 then .fail (.tooDeep reached limit)
    else .report (Failure.event source (.tooDeep reached limit)) (.error .failure)
  | other => .report (Failure.event source other) (.error .failure)

def settle (limit : Int) (source : Text) (depth : Int) (body : Unit → Outcome Answer) : Outcome Answer :=
  (if depth ≥ limit then Outcome.fail (.tooDeep depth limit) else body ()).recover (onFailure source depth)

/-- Calls a function by name; `resolve` gives its arguments, with or without the codes of failed ones. The
arguments of a function that does not exist are evaluated all the same. -/
def callFunction (setting : Setting) (name : Text) (resolve : Bool → Outcome (List Value)) :
    Outcome Answer :=
  match Builtin.find? name with
  | some builtin => do
    let values ← resolve builtin.acceptsErrors
    Outcome.ofExcept (builtin.answer setting.ambient values)
  | none => do
    let _ ← resolve false
    Outcome.report (unknownFunction name) (.error .name)

def evaluateExpression (view : View) (expression : Except Failure Expression) : Outcome Answer :=
  Outcome.ofExcept do return Answer.ofValue (← (← expression).evaluate view)

end Formula

namespace Argument

mutual

def resolve (setting : Setting) (view : View) (depth : Int) (keepsErrors : Bool) :
    Argument → Outcome Value
  | range span => Outcome.ofExcept do return .list (← span.positions.mapM view)
  | cell position => Outcome.ofExcept (view position)
  | comparison left relation right => do
    let leftValue ← resolve setting view depth keepsErrors left
    let rightValue ← resolve setting view depth keepsErrors right
    Outcome.ofExcept (relation.apply leftValue rightValue)
  | call source name arguments => do
    let answer ← Formula.settle setting.maxDepth source (depth + 1) fun _ =>
      Formula.callFunction setting name fun keeps => resolveAll setting view (depth + 1) keeps arguments
    pure (answer.asArgument keepsErrors)
  | formula source expression => do
    let answer ← Formula.settle setting.maxDepth source (depth + 1) fun _ =>
      Formula.evaluateExpression view expression
    pure (answer.asArgument keepsErrors)
  | constant value => .succeed value
  | arithmetic expression => Outcome.ofExcept (expression.evaluate view)
  | invalid failure => .fail failure

def resolveAll (setting : Setting) (view : View) (depth : Int) (keepsErrors : Bool) :
    List Argument → Outcome (List Value)
  | [] => .succeed []
  | argument :: rest => do
    let value ← resolve setting view depth keepsErrors argument
    let values ← resolveAll setting view depth keepsErrors rest
    pure (value :: values)

end

end Argument

namespace Formula

def answer (setting : Setting) (view : View) (depth : Int) (source : Text) : Formula → Outcome Answer
  | plain => .succeed (.value (.text source))
  | blank => settle setting.maxDepth source depth fun _ => .succeed (.value .empty)
  | call name arguments =>
    settle setting.maxDepth source depth fun _ =>
      callFunction setting name fun keeps => Argument.resolveAll setting view depth keeps arguments
  | expression parsed =>
    settle setting.maxDepth source depth fun _ => evaluateExpression view parsed

end Formula

def evaluateAt (setting : Setting) (view : View) (depth : Int) (source : Text) : Outcome Answer :=
  (Formula.ofText source).answer setting view depth source

def evaluate (setting : Setting) (view : View) (source : Text) : Outcome Answer :=
  evaluateAt setting view 0 source

end Worksheet
