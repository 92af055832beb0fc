import Worksheet.Text.Basic
import Worksheet.Text.CaseTable

/-! Upper case, lower case and caseless comparison of single characters. A mapping may give several characters, and a
capital sigma at the end of a word becomes the final small sigma. -/

namespace Worksheet.Text

def CaseRun.covers (run : CaseRun) (code : Nat) : Bool :=
  run.first ≤ code && code ≤ run.last && (code - run.first) % run.step == 0

def mapCode (runs : List CaseRun) (code : Nat) : Nat :=
  match runs.find? (·.covers code) with
  | some run => (code + run.offset).toNat
  | none => code

def upperChar (char : Char) : Text :=
  if char.toNat < 128 then [char.toUpper]
  else match upperExpansions.lookup char.toNat with
    | some codes => codes.map Char.ofNat
    | none => [Char.ofNat (mapCode upperRuns char.toNat)]

def upper (text : Text) : Text :=
  text.flatMap upperChar

/-- The small letter of a single character, when one character is all there may be. -/
def simpleLower (char : Char) : Char :=
  if char.toNat < 128 then char.toLower
  else if char.toNat = 0x130 then 'i'
  else Char.ofNat (mapCode lowerRuns char.toNat)

def isCased (char : Char) : Bool :=
  inRanges casedRanges char.toNat

def isCaseIgnorable (char : Char) : Bool :=
  inRanges caseIgnorableRanges char.toNat

/-- The first character that counts in the given direction is a letter with case. -/
def meetsCased (text : Text) : Bool :=
  match text.dropWhile isCaseIgnorable with
  | [] => false
  | char :: _ => isCased char

def lowerChar (before : Text) (char : Char) (after : Text) : Text :=
  if char.toNat < 128 then [char.toLower]
  else if char.toNat = 0x130 then ['i', Char.ofNat 0x307]
  else if char.toNat = 0x3A3 then
    [Char.ofNat (if meetsCased before && !meetsCased after then 0x3C2 else 0x3C3)]
  else [simpleLower char]

/-- `before` is the part already passed, reversed. -/
def lowerFrom (before : Text) : Text → Text
  | [] => []
  | char :: rest => lowerChar before char rest ++ lowerFrom (char :: before) rest

def lower (text : Text) : Text :=
  lowerFrom [] text

def caseless (char : Char) : Char :=
  let small := simpleLower char
  match caselessTwins.lookup small.toNat with
  | some code => Char.ofNat code
  | none => small

def sameUpToCase (left right : Char) : Bool :=
  caseless left == caseless right

/-- Equal up to case to one of the letters A to Z. -/
def isLetter (char : Char) : Bool :=
  let small := caseless char
  'a' ≤ small && small ≤ 'z'

def isEnglishLetter (char : Char) : Bool :=
  char.isAlpha

def properFrom (inside : Bool) : Text → Text
  | [] => []
  | char :: rest =>
    (if inside then char.toLower else char.toUpper) :: properFrom (isEnglishLetter char) rest

def proper (text : Text) : Text :=
  properFrom false text

end Worksheet.Text
