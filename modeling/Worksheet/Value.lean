import Worksheet.Calendar.Date
import Worksheet.Number.Basic
import Worksheet.Text.Basic

/-! The values of cells and formulas. An error code is a value of its own, never the text that shows it. A record
holds the named parts of something that formulas only pass on, such as a style. -/

namespace Worksheet

inductive ErrorCode where
  | reference
  | value
  | notAvailable
  | name
  | failure
  deriving DecidableEq, Repr

namespace ErrorCode

def text : ErrorCode → Text
  | reference => "#REF!".toList
  | value => "#VALUE!".toList
  | notAvailable => "#N/A".toList
  | name => "#NAME?".toList
  | failure => "#ERROR!".toList

end ErrorCode

inductive Value where
  | empty
  | bool (value : Bool)
  | number (value : Number)
  | text (value : Text)
  | error (code : ErrorCode)
  | list (values : List Value)
  | record (fields : List (Text × Value))
  | date (value : Date)
  | moment (value : DateTime)
  deriving Inhabited

abbrev Value.Fields := List (Text × Value)

namespace Value

def integer (value : Int) : Value := .number (.integer value)

def double (value : Float) : Value := .number (.double value)

def ofNat (value : Nat) : Value := .number (.integer value)

/-- No value, or the empty text. -/
def isEmpty : Value → Bool
  | empty => true
  | text value => value.isEmpty
  | _ => false

def isMissing : Value → Bool
  | empty => true
  | _ => false

def isError : Value → Bool
  | error _ => true
  | _ => false

mutual

/-- The values that a value consists of once every list is opened, in order. -/
def leaves : Value → List Value
  | list values => flatten values
  | other => [other]

def flatten : List Value → List Value
  | [] => []
  | value :: rest => value.leaves ++ flatten rest

end

def firstError : List Value → Option ErrorCode
  | [] => none
  | error code :: _ => some code
  | _ :: rest => firstError rest

/-- A value seen as a range: a single value is a range of one cell. -/
def entries : Value → List Value
  | list values => flatten values
  | other => [other]

def isPresent : Value → Bool
  | empty => false
  | bool value => value
  | number value => !value.isZero
  | text value => !value.isEmpty
  | error _ => true
  | list values => !values.isEmpty
  | record fields => !fields.isEmpty
  | date _ => true
  | moment _ => true

end Value

end Worksheet
