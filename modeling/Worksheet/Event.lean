import Worksheet.Value

/-! Events: what happened while formulas were evaluated, for the log. Long texts in the context of an event are cut,
so that no formula makes a line of the log long. -/

namespace Worksheet

inductive EventLevel where
  | info
  | warning
  | error
  deriving DecidableEq, Repr

inductive EventKind where
  | formulaFailed
  | formulaUnknownFunction
  | formulaDepthExceeded
  | sheetRecalculated
  deriving DecidableEq, Repr

def EventLevel.text : EventLevel → Text
  | info => "info".toList
  | warning => "warning".toList
  | error => "error".toList

def EventKind.text : EventKind → Text
  | formulaFailed => "formula_failed".toList
  | formulaUnknownFunction => "formula_unknown_function".toList
  | formulaDepthExceeded => "formula_depth_exceeded".toList
  | sheetRecalculated => "sheet_recalculated".toList

def EventLevel.ofText? (text : Text) : Option EventLevel :=
  [info, warning, error].find? (·.text == text)

def EventKind.ofText? (text : Text) : Option EventKind :=
  [formulaFailed, formulaUnknownFunction, formulaDepthExceeded, sheetRecalculated].find? (·.text == text)

structure Event where
  level : EventLevel
  kind : EventKind
  context : Value.Fields
  message : Text
  errorCode : Option Text

namespace Value

def contextLimit : Nat := 256

def cutMark : Text := "...[truncated]".toList

def cutText (text : Text) : Text :=
  if text.length > contextLimit then text.take contextLimit ++ cutMark else text

mutual

def cut : Value → Value
  | text value => text (cutText value)
  | list values => list (cutAll values)
  | record fields => record (cutFields fields)
  | other => other

def cutAll : List Value → List Value
  | [] => []
  | value :: rest => value.cut :: cutAll rest

def cutFields : List (Text × Value) → List (Text × Value)
  | [] => []
  | (name, value) :: rest => (name, value.cut) :: cutFields rest

end

end Value

def Event.cut (event : Event) : Event :=
  { event with context := Value.cutFields event.context }

end Worksheet
