import Worksheet.Builtin.Basic
import Worksheet.Value.Comparison

/-! Functions of truth values, choices between values, and questions about a value. Those that choose or ask take
error codes as arguments. -/

namespace Worksheet.Builtin

def zeroIfMissing (value : Value) : Value :=
  if value.isMissing then .integer 0 else value

def choose (arguments : List Value) : Except Failure Value := do
  require "IF" arguments 2 3
  match argument arguments 0 with
  | .error code => return .error code
  | condition =>
    if ← condition.toTruth then return zeroIfMissing (argument arguments 1)
    else return zeroIfMissing (argument arguments 2)

def firstHolding : List Value → Except Failure Value
  | .error code :: _ :: _ => .ok (.error code)
  | condition :: value :: rest => do
    if ← condition.toTruth then return value else firstHolding rest
  | _ => .ok (.error .notAvailable)

def chooseFirst (arguments : List Value) : Except Failure Value :=
  if arguments.length < 2 ∨ arguments.length % 2 ≠ 0 then
    .error (bad "IFS".toList "requires condition/value pairs")
  else firstHolding arguments

def combine (name : String) (decide : List Bool → Bool) (arguments : List Value) : Except Failure Value := do
  requireAtLeast name arguments 1
  let present := arguments.filter (!·.isMissing)
  if present.isEmpty then return .error .value
  else return .bool (decide (← present.mapM Value.toTruth))

def isOdd (truths : List Bool) : Bool :=
  truths.countP id % 2 == 1

def negation (arguments : List Value) : Except Failure Value := do
  require "NOT" arguments 1 1
  return .bool (!(← (argument arguments 0).toTruth))

/-- The result of the first case equal to the value; a single value at the end is the default. -/
def firstCase (value : Value) : List Value → Except Failure Value
  | candidate :: result :: rest => do
    if ← value.equal candidate then return result else firstCase value rest
  | [default] => .ok default
  | [] => .ok (.error .notAvailable)

def switch (arguments : List Value) : Except Failure Value := do
  requireAtLeast "SWITCH" arguments 3
  match arguments with
  | .error code :: _ => return .error code
  | value :: rest => firstCase value rest
  | [] => return .error .notAvailable

def ifError (arguments : List Value) : Except Failure Value := do
  require "IFERROR" arguments 2 2
  return if (argument arguments 0).isError then argument arguments 1 else argument arguments 0

/-- The code for a value that is not available, or the text spelled like it. -/
def isNotAvailable : Value → Bool
  | .error code => code == .notAvailable
  | .text text => text == ErrorCode.notAvailable.text
  | _ => false

def ifNotAvailable (arguments : List Value) : Except Failure Value := do
  require "IFNA" arguments 2 2
  return if isNotAvailable (argument arguments 0) then argument arguments 1 else argument arguments 0

def ask (name : String) (question : Value → Except Failure Bool) (arguments : List Value) :
    Except Failure Value := do
  require name arguments 1 1
  return .bool (← question (argument arguments 0))

def isPlainText (value : Value) : Except Failure Bool :=
  match value with
  | .text _ => do return !(← value.isNumeric)
  | _ => .ok false

def logic : List Builtin :=
  [errorAware "IF" choose,
   errorAware "IFS" chooseFirst,
   plain "AND" (combine "AND" (·.all id)),
   plain "OR" (combine "OR" (·.any id)),
   plain "XOR" (combine "XOR" isOdd),
   plain "NOT" negation,
   errorAware "SWITCH" switch,
   errorAware "IFERROR" ifError,
   errorAware "IFNA" ifNotAvailable,
   errorAware "ISBLANK" (ask "ISBLANK" fun value => .ok value.isEmpty),
   errorAware "ISNUMBER" (ask "ISNUMBER" Value.isNumeric),
   errorAware "ISTEXT" (ask "ISTEXT" isPlainText),
   errorAware "ISERROR" (ask "ISERROR" fun value => .ok value.isError)]

end Worksheet.Builtin
