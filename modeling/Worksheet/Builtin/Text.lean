import Worksheet.Builtin.Basic
import Worksheet.Calendar.Picture
import Worksheet.Number.Picture
import Worksheet.Text.Basic
import Worksheet.Text.Glob
import Worksheet.Value.Moment

/-! Functions of texts: joining, case, parts by position, search and replacement, characters, and the conversions
between texts and numbers. Positions count from one. -/

namespace Worksheet.Builtin

def textAt (arguments : List Value) (index : Nat) : Except Failure Text :=
  (argument arguments index).toText

def integerAt (arguments : List Value) (index : Nat) : Except Failure Int :=
  (argument arguments index).toInteger

def concatenate (arguments : List Value) : Except Failure Value := do
  return .text (← Value.toTexts arguments).flatten

def textJoin (arguments : List Value) : Except Failure Value := do
  requireAtLeast "TEXTJOIN" arguments 3
  let delimiter ← textAt arguments 0
  let skipsEmpty ← (argument arguments 1).toTruth
  let parts ← Value.toTexts (Value.flatten (arguments.drop 2))
  return .text (Text.join delimiter (if skipsEmpty then parts.filter (!·.isEmpty) else parts))

def onText (name : String) (compute : Text → Value) (arguments : List Value) : Except Failure Value := do
  require name arguments 1 1
  return compute (← textAt arguments 0)

def withoutControls (text : Text) : Text :=
  text.filter fun char => char.toNat ≥ 32

def wantedCount (arguments : List Value) : Except Failure Int := do
  if arguments.length = 2 ∧ ¬(argument arguments 1).isEmpty then
    let count ← integerAt arguments 1
    return if count = 0 then 1 else count
  else return 1

def leftPart (arguments : List Value) : Except Failure Value := do
  require "LEFT" arguments 1 2
  let text ← textAt arguments 0
  return .text (text.take (← wantedCount arguments).toNat)

def rightPart (arguments : List Value) : Except Failure Value := do
  require "RIGHT" arguments 1 2
  let text ← textAt arguments 0
  return .text (text.drop ((text.length : Int) - (← wantedCount arguments)).toNat)

def middlePart (arguments : List Value) : Except Failure Value := do
  require "MID" arguments 3 3
  let text ← textAt arguments 0
  let start ← integerAt arguments 1
  let count ← integerAt arguments 2
  if start < 1 ∨ count < 0 then return .error .value
  else return .text ((text.drop (start.toNat - 1)).take count.toNat)

def replacePart (arguments : List Value) : Except Failure Value := do
  require "REPLACE" arguments 4 4
  let text ← textAt arguments 0
  let start ← integerAt arguments 1
  let count ← integerAt arguments 2
  if start < 1 ∨ count < 0 then return .error .value
  else
    let before := start.toNat - 1
    return .text (text.take before ++ (← textAt arguments 3) ++ text.drop (before + count.toNat))

/-- The position of the occurrence with the given number at or after `start`, where the search goes on one
character after each occurrence. -/
def occurrence? (old text : Text) (start : Nat) : Nat → Option Nat
  | 0 => none
  | 1 => Text.findFrom old text start
  | instance_ + 2 =>
    match Text.findFrom old text start with
    | some found => occurrence? old text (found + 1) (instance_ + 1)
    | none => none

def substitute (arguments : List Value) : Except Failure Value := do
  require "SUBSTITUTE" arguments 3 4
  let text ← textAt arguments 0
  let old ← textAt arguments 1
  let new ← textAt arguments 2
  if old.isEmpty then return .text text
  else if arguments.length = 3 then return .text (Text.replaceAll old new text)
  else
    let wanted ← integerAt arguments 3
    if wanted < 1 then return .error .value
    else
      match occurrence? old text 0 wanted.toNat with
      | some found => return .text (text.take found ++ new ++ text.drop (found + old.length))
      | none => return .text text

def searchStart (arguments : List Value) (text : Text) : Except Failure (Option Nat) := do
  let start ← if arguments.length = 3 then integerAt arguments 2 else .ok 1
  return if start < 1 ∨ start > text.length + 1 then none else some (start.toNat - 1)

def foundAt : Option Nat → Value
  | some position => .ofNat (position + 1)
  | none => .error .value

def findText (arguments : List Value) : Except Failure Value := do
  require "FIND" arguments 2 3
  let needle ← textAt arguments 0
  let text ← textAt arguments 1
  match ← searchStart arguments text with
  | some start => return foundAt (Text.findFrom needle text start)
  | none => return .error .value

def searchText (arguments : List Value) : Except Failure Value := do
  require "SEARCH" arguments 2 3
  let needle ← textAt arguments 0
  let text ← textAt arguments 1
  match ← searchStart arguments text with
  | some start =>
    return foundAt (((Text.Glob.ofText needle).search false text start).map (·.1))
  | none => return .error .value

def repeatLimit : Int := 9223372036854775807

def lengthLimit : Nat := Nat.pow 2 36

def repeatText (arguments : List Value) : Except Failure Value := do
  require "REPT" arguments 2 2
  let times ← integerAt arguments 1
  if times < 0 then return .error .value
  else
    let text ← textAt arguments 0
    if times > repeatLimit ∨ text.length * times > repeatLimit then throw .outOfRange
    if text.length * times > lengthLimit then throw .outOfMemory
    return .text (if text.isEmpty then [] else (List.replicate times.toNat text).flatten)

def character (arguments : List Value) : Except Failure Value := do
  require "CHAR" arguments 1 1
  let code ← integerAt arguments 0
  if code < 1 ∨ code > 0x10FFFF then return .error .value
  else return .text [Char.ofNat code.toNat]

def characterCode : Text → Value
  | char :: _ => .ofNat char.toNat
  | [] => .error .value

def numberOfText (arguments : List Value) : Except Failure Value := do
  require "VALUE" arguments 1 1
  match argument arguments 0 with
  | .number found => return .number found
  | value =>
    let text := (Text.strip (← value.toText)).filter (· != ',')
    let percent := text.getLast? = some '%'
    match ← Number.readWhole (if percent then text.dropLast else text) with
    | none => return .error .value
    | some found => return .number (← if percent then found.div (.integer 100) else .ok found)

def partValue (part : Text) : Except Failure Value := do
  match ← Number.readWhole part with
  | some found => return .number found
  | none => return .text part

def split (arguments : List Value) : Except Failure Value := do
  require "SPLIT" arguments 2 2
  let text ← textAt arguments 0
  let delimiter ← textAt arguments 1
  return .list (← (Text.splitOn delimiter text).mapM partValue)

def isNumberPicture (picture : Text) : Bool :=
  picture.any NumberPicture.isPlace

def formatNumber (value : Value) (picture : Text) : Except Failure Value := do
  if ← value.isNumeric then
    return .text (← (NumberPicture.ofText picture).write (← value.toNumber))
  else return .text (← value.toText)

def formatMoment (zone : Zone) (value : Value) (picture : Text) : Except Failure Value := do
  match ← value.toMoment zone with
  | some moment => return .text (← DatePicture.write picture moment)
  | none => return .error .value

/-- A value under a picture: of a number if the picture has places for digits, of a moment if it has parts
of one, and otherwise just the text of the value. -/
def format (zone : Zone) (arguments : List Value) : Except Failure Value := do
  require "TEXT" arguments 2 2
  let value := argument arguments 0
  let picture ← textAt arguments 1
  if isNumberPicture picture then formatNumber value picture
  else if (DatePicture.ofText picture).any DatePicture.isPart then formatMoment zone value picture
  else return .text (← value.toText)

def texts : List Builtin :=
  [plain "CONCAT" concatenate,
   plain "CONCATENATE" concatenate,
   overRanges "TEXTJOIN" textJoin,
   plain "LEN" (onText "LEN" fun text => .ofNat text.length),
   plain "UPPER" (onText "UPPER" fun text => .text (Text.upper text)),
   plain "LOWER" (onText "LOWER" fun text => .text (Text.lower text)),
   plain "PROPER" (onText "PROPER" fun text => .text (Text.proper text)),
   plain "TRIM" (onText "TRIM" fun text => .text (Text.strip text)),
   plain "CLEAN" (onText "CLEAN" fun text => .text (withoutControls text)),
   plain "LEFT" leftPart,
   plain "RIGHT" rightPart,
   plain "MID" middlePart,
   plain "REPLACE" replacePart,
   plain "SUBSTITUTE" substitute,
   plain "FIND" findText,
   plain "SEARCH" searchText,
   plain "REPT" repeatText,
   plain "CHAR" character,
   plain "CODE" (onText "CODE" characterCode),
   plain "VALUE" numberOfText,
   plain "SPLIT" split,
   ofDates "TEXT" format]

end Worksheet.Builtin
