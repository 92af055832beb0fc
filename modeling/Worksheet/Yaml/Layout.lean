import Worksheet.Text.Basic

/-! The characters of YAML that part words and lines, and how the lines of a scalar are joined: a single line break
between two words becomes a space, and of several ones the first is left out. -/

namespace Worksheet.Yaml

def isBreak (char : Char) : Bool :=
  char == '\n' || char.toNat == 0x85 || char.toNat == 0x2028 || char.toNat == 0x2029

def isGap (char : Char) : Bool :=
  char == ' ' || char == '\t'

def endsWord : Text → Bool
  | [] => true
  | char :: _ => isGap char || isBreak char

def startsDocument (text : Text) : Bool :=
  ("---".toList.isPrefixOf text || "...".toList.isPrefixOf text) && endsWord (text.drop 3)

def lineBreak (char : Char) : Char :=
  if char.toNat = 0x85 then '\n' else char

def joinLines (first : Char) (others : Text) : Text :=
  if lineBreak first != '\n' then lineBreak first :: others
  else if others.isEmpty then [' ']
  else others

/-- What parts two words of a plain scalar: the text that stands for it, how many characters it takes, and
whether it holds a line break. -/
structure Space where
  text : Text
  length : Nat
  breaksLine : Bool

/-- The line breaks among the spaces at the start of a text and the number of characters that they take. A
document that begins on one of the lines ends the scalar: there is no text then. -/
def plainBreaks : Text → Option Text × Nat
  | [] => (some [], 0)
  | char :: rest =>
    if char = ' ' then
      let (breaks, length) := plainBreaks rest
      (breaks, length + 1)
    else if isBreak char then
      if startsDocument rest then (none, 1)
      else
        let (breaks, length) := plainBreaks rest
        (breaks.map (lineBreak char :: ·), length + 1)
    else (some [], 0)

def plainSpace (text : Text) : Space :=
  let blanks := text.takeWhile (· == ' ')
  match text.dropWhile (· == ' ') with
  | [] => ⟨blanks, blanks.length, false⟩
  | char :: rest =>
    if isBreak char then
      if startsDocument rest then ⟨[], blanks.length + 1, true⟩
      else
        let (breaks, length) := plainBreaks rest
        ⟨(breaks.map (joinLines char)).getD [], blanks.length + 1 + length, true⟩
    else ⟨blanks, blanks.length, false⟩

def plainWord (inFlow : Bool) : Text → Nat
  | [] => 0
  | char :: rest =>
    if isGap char || isBreak char then 0
    else if char = ':' ∧ (endsWord rest ∨ (inFlow ∧ (rest.head?.any (",[]{}".toList.contains ·)))) then 0
    else if inFlow && ",?[]{}".toList.contains char then 0
    else plainWord inFlow rest + 1

def startsPlain (inFlow : Bool) : Text → Bool
  | [] => false
  | char :: rest =>
    !(isGap char || isBreak char || "-?:,[]{}#&*!|>'\"%@`".toList.contains char)
      || (!endsWord rest && (char == '-' || (!inFlow && (char == '?' || char == ':'))))

end Worksheet.Yaml
