import Worksheet.Builtin.Basic
import Worksheet.Criteria
import Worksheet.Number.Statistics

/-! Functions over many values. Plain aggregates take the numbers and the texts that begin with one and pass over all
else; conditional ones take the entries of a range at which every criterion holds. -/

namespace Worksheet.Builtin

def contribution (value : Value) : Except Failure (Option Number) :=
  match value with
  | .number number => do
    if ← number.isNaN then return none else return some number
  | .text text => Number.readPrefix text
  | _ => .ok none

def numbersOf : List Value → Except Failure (List Number)
  | [] => .ok []
  | value :: rest => do
    match ← contribution value with
    | some number => return number :: (← numbersOf rest)
    | none => numbersOf rest

def numeric (compute : List Number → Except Failure Number) (arguments : List Value) :
    Except Failure Value := do
  return .number (← compute (← numbersOf arguments))

def average (numbers : List Number) : Except Failure Number :=
  if numbers.isEmpty then .ok Number.zero
  else do (← Number.sum numbers).div (.integer numbers.length)

def orZero (number : Option Number) : Except Failure Number :=
  .ok (number.getD Number.zero)

def productOf (numbers : List Number) : Except Failure Number :=
  if numbers.isEmpty then .ok Number.zero else Number.product numbers

def sampled (name : String) (compute : List Number → Except Failure Number) (numbers : List Number) :
    Except Failure Number :=
  if numbers.length < 2 then .error (bad name.toList "requires at least 2 numeric values")
  else compute numbers

def counting (counts : Value → Bool) (arguments : List Value) : Except Failure Value :=
  .ok (.ofNat (arguments.countP counts))

structure Condition where
  entries : List Value
  criterion : Criterion

def Condition.ofValues (range criterion : Value) : Except Failure Condition := do
  return ⟨range.entries, ← Criterion.ofValue criterion⟩

/-- Every condition is met at the index; a range that is too short reads as empty there. -/
def meets (index : Nat) : List Condition → Except Failure Bool
  | [] => .ok true
  | condition :: rest => do
    if ← condition.criterion.holds (argument condition.entries index) then meets index rest
    else return false

def matchingFrom (conditions : List Condition) (index : Nat) : Nat → Except Failure (List Nat)
  | 0 => .ok []
  | count + 1 => do
    let met ← meets index conditions
    let later ← matchingFrom conditions (index + 1) count
    return if met then index :: later else later

def matching (conditions : List Condition) : Except Failure (List Nat) :=
  match conditions with
  | [] => .ok []
  | first :: _ => matchingFrom conditions 0 first.entries.length

def conditionsOf : List Value → Except Failure (List Condition)
  | range :: criterion :: rest => do
    let first ← Condition.ofValues range criterion
    return first :: (← conditionsOf rest)
  | _ => .ok []

def pairConditions (name : String) (arguments : List Value) : Except Failure (List Condition) :=
  if arguments.length < 2 ∨ arguments.length % 2 ≠ 0 then
    .error (bad name.toList s!"requires (range, criteria) pairs -- got {arguments.length} arguments")
  else conditionsOf arguments

def sumAt (targets : List Value) (indices : List Nat) : Except Failure Number :=
  indices.foldlM (fun sum index => do sum.add (← (argument targets index).toNumber)) Number.zero

/-- The range whose entries are added up: the third argument, or else the range of the condition. -/
def targetsOf (arguments : List Value) : List Value :=
  (if arguments.length = 3 then argument arguments 2 else argument arguments 0).entries

def singleMatching (arguments : List Value) : Except Failure (List Nat) := do
  matching [← Condition.ofValues (argument arguments 0) (argument arguments 1)]

def sumIf (arguments : List Value) : Except Failure Value := do
  require "SUMIF" arguments 2 3
  return .number (← sumAt (targetsOf arguments) (← singleMatching arguments))

def sumIfs (arguments : List Value) : Except Failure Value := do
  if arguments.length < 3 then throw (bad "SUMIFS".toList "requires at least 3 arguments")
  let conditions ← pairConditions "SUMIFS" (arguments.drop 1)
  return .number (← sumAt (argument arguments 0).entries (← matching conditions))

def averageIf (arguments : List Value) : Except Failure Value := do
  require "AVERAGEIF" arguments 2 3
  let indices ← singleMatching arguments
  if indices.isEmpty then return .integer 0
  else
    let total ← sumAt (targetsOf arguments) indices
    return .number (← total.div (.integer indices.length))

def countIf (arguments : List Value) : Except Failure Value := do
  require "COUNTIF" arguments 2 2
  return .ofNat (← singleMatching arguments).length

def countIfs (arguments : List Value) : Except Failure Value := do
  return .ofNat (← matching (← pairConditions "COUNTIFS" arguments)).length

def aggregates : List Builtin :=
  [plain "SUM" (numeric Number.sum),
   plain "AVERAGE" (numeric average),
   plain "COUNT" (counting (!·.isEmpty)),
   plain "COUNTA" (counting (!·.isMissing)),
   plain "COUNTBLANK" (counting Value.isEmpty),
   plain "MAX" (numeric fun numbers => orZero (Number.maximum? numbers)),
   plain "MIN" (numeric fun numbers => orZero (Number.minimum? numbers)),
   plain "PRODUCT" (numeric productOf),
   plain "MEDIAN" (numeric Number.median),
   plain "STDEV" (numeric (sampled "STDEV" Number.deviation)),
   plain "VAR" (numeric (sampled "VAR" Number.variance)),
   overRanges "SUMIF" sumIf,
   overRanges "SUMIFS" sumIfs,
   overRanges "AVERAGEIF" averageIf,
   overRanges "COUNTIF" countIf,
   overRanges "COUNTIFS" countIfs]

end Worksheet.Builtin
