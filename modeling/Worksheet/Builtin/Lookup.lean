import Worksheet.Builtin.Basic
import Worksheet.Text.Glob
import Worksheet.Value.Comparison

/-! Lookups in ranges. A range arrives as a flat list; where a grid is wanted it is cut into rows as long as the least
number whose square is at least the number of values. -/

namespace Worksheet.Builtin

def widthFrom (count width : Nat) : Nat → Nat
  | 0 => width
  | fuel + 1 => if count ≤ width * width then width else widthFrom count (width + 1) fuel

def gridWidth (count : Nat) : Nat :=
  widthFrom count 0 count

def rowsOf (width : Nat) (values : List Value) : List (List Value) :=
  if width = 0 then []
  else
    match values with
    | [] => []
    | first :: rest => (first :: rest).take width :: rowsOf width ((first :: rest).drop width)
termination_by values.length
decreasing_by
  simp only [List.length_drop, List.length_cons]
  omega

def grid (values : List Value) : List (List Value) :=
  rowsOf (gridWidth values.length) values

/-- The search is for a beginning too, unless the flag is false, zero or the word for it. -/
def isSortedFlag : Value → Bool
  | .bool value => value
  | .number value => !value.isZero
  | .text text => Text.upper (Text.strip text) != "FALSE".toList
  | _ => true

def sortedFlag (arguments : List Value) : Bool :=
  arguments.length != 4 || isSortedFlag (argument arguments 3)

def isHit (candidate key : Value) (sorted : Bool) : Except Failure Bool := do
  if ← candidate.equal key then return true
  else if !sorted || candidate.isMissing then return false
  else
    let beginning := Text.lower (← key.toText)
    if beginning.isEmpty then return false
    else return beginning.isPrefixOf (Text.lower (← candidate.toText))

def findRow (key : Value) (sorted : Bool) (column : Nat) : List (List Value) → Except Failure Value
  | [] => .ok (.error .notAvailable)
  | row :: rest => do
    if ← isHit (argument row 0) key sorted then return argument row column
    else findRow key sorted column rest

def lookupVertical (arguments : List Value) : Except Failure Value := do
  require "VLOOKUP" arguments 3 4
  let rows := grid (argument arguments 1).entries
  let column ← (argument arguments 2).toInteger
  if column < 1 ∨ column > (rows.headD []).length then return .error .reference
  else findRow (argument arguments 0) (sortedFlag arguments) (column.toNat - 1) rows

def findColumn (key : Value) (sorted : Bool) (target : List Value) (index : Nat) :
    List Value → Except Failure Value
  | [] => .ok (.error .notAvailable)
  | candidate :: rest => do
    if ← isHit candidate key sorted then return argument target index
    else findColumn key sorted target (index + 1) rest

def lookupHorizontal (arguments : List Value) : Except Failure Value := do
  require "HLOOKUP" arguments 3 4
  let rows := grid (argument arguments 1).entries
  let row ← (argument arguments 2).toInteger
  if row < 1 ∨ row > rows.length then return .error .reference
  else
    findColumn (argument arguments 0) (sortedFlag arguments) (rows.getD (row.toNat - 1) []) 0
      (rows.headD [])

def index (arguments : List Value) : Except Failure Value := do
  require "INDEX" arguments 2 3
  let values := (argument arguments 0).entries
  if arguments.length = 2 then
    let position ← (argument arguments 1).toInteger
    if position < 1 ∨ position > values.length then return .error .reference
    else return argument values (position.toNat - 1)
  else
    let rows := grid values
    let row ← (argument arguments 1).toInteger
    let column ← (argument arguments 2).toInteger
    if row < 1 ∨ row > rows.length ∨ column < 1 ∨ column > (rows.headD []).length then
      return .error .reference
    else return argument (rows.getD (row.toNat - 1) []) (column.toNat - 1)

/-- The position of the last value before the first one that lies beyond the key; missing values are
passed over. -/
def lastBefore (key : Value) (beyond : Ordering) (found : Option Nat) (index : Nat) :
    List Value → Except Failure (Option Nat)
  | [] => .ok found
  | .empty :: rest => lastBefore key beyond found (index + 1) rest
  | value :: rest => do
    if (← value.compare key) = beyond then return found
    else lastBefore key beyond (some index) (index + 1) rest

def firstPassing (passes : Value → Except Failure Bool) (index : Nat) :
    List Value → Except Failure (Option Nat)
  | [] => .ok none
  | value :: rest => do
    if ← passes value then return some index else firstPassing passes (index + 1) rest

def keyPattern? (key : Value) : Option Text.Glob :=
  let text? : Option Text :=
    match key with
    | .text text => some text
    | .error code => some code.text
    | _ => none
  (text?.filter Text.hasWildcards).map Text.Glob.ofText

def positionValue : Option Nat → Value
  | some index => .ofNat (index + 1)
  | none => .error .notAvailable

def position (arguments : List Value) : Except Failure Value := do
  require "MATCH" arguments 2 3
  let key := argument arguments 0
  let values := (argument arguments 1).entries
  let kind ← if arguments.length = 3 then (argument arguments 2).toInteger else .ok 1
  if kind = 0 then
    match keyPattern? key with
    | some pattern =>
      return positionValue (← firstPassing (fun value => do return pattern.fits (← value.toText)) 0 values)
    | none => return positionValue (← firstPassing (·.equal key) 0 values)
  else return positionValue (← lastBefore key (if kind < 0 then .lt else .gt) none 0 values)

def lookup (arguments : List Value) : Except Failure Value := do
  require "LOOKUP" arguments 2 3
  let values := (argument arguments 1).entries
  let results := if arguments.length = 3 then (argument arguments 2).entries else values
  match ← lastBefore (argument arguments 0) .gt none 0 values with
  | none => return .error .notAvailable
  | some found => return results.getD found (.error .notAvailable)

def lookups : List Builtin :=
  [overRanges "VLOOKUP" lookupVertical,
   overRanges "HLOOKUP" lookupHorizontal,
   overRanges "INDEX" index,
   overRanges "MATCH" position,
   overRanges "LOOKUP" lookup]

end Worksheet.Builtin
