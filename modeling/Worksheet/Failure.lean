import Worksheet.Text.Basic

/-! Why an operation has no value. Each constructor is a cause; the label that the event log shows for it is written
here once. -/

namespace Worksheet

inductive Failure where
  /-- The tokens leave the grammar at this index; no index when a token cannot be classified. -/
  | syntaxError (position : Option Nat)
  | badCall (function message : Text)
  | tooDeep (depth limit : Int)
  | outOfRange
  /-- A text or number has no counterpart in the form that it has to take. -/
  | unreadable
  | zeroDivisor
  /-- A decimal needs more digits than are kept. -/
  | tooPrecise
  | unknownKey
  | noSuchPosition
  | wrongKind
  /-- A deviation that is infinite has no square root by fractions. -/
  | notAFraction
  | outOfMemory
  | invalidField
  /-- A line of a log holds a value without fields. -/
  | notARecord
  | badMarkup
  | noData
  /-- A row of a table is longer than the first one. -/
  | raggedTable
  | missingFile
  | fileInTheWay
  | notAFolder
  | isAFolder
  deriving DecidableEq, Repr

namespace Failure

def label : Failure → Text
  | syntaxError _ => "FormulaParseError".toList
  | badCall _ _ => "FormulaFunctionError".toList
  | tooDeep _ _ => "FormulaDepthError".toList
  | outOfRange => "OverflowError".toList
  | unreadable => "ValueError".toList
  | zeroDivisor => "ZeroDivisionError".toList
  | tooPrecise => "InvalidOperation".toList
  | unknownKey => "KeyError".toList
  | noSuchPosition => "IndexError".toList
  | wrongKind => "TypeError".toList
  | notAFraction => "AttributeError".toList
  | outOfMemory => "MemoryError".toList
  | invalidField => "ValidationError".toList
  | notARecord => "AttributeError".toList
  | badMarkup => "YAMLError".toList
  | noData => "NoDataError".toList
  | raggedTable => "ComputeError".toList
  | missingFile => "FileNotFoundError".toList
  | fileInTheWay => "FileExistsError".toList
  | notAFolder => "NotADirectoryError".toList
  | isAFolder => "IsADirectoryError".toList

end Failure

end Worksheet
