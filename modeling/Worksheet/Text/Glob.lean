import Worksheet.Text.Case

/-! Wildcard patterns: `*` stands for any text, `?` for any one character, and every other character for itself up to
case. The matcher computes, for every suffix of the text at once, the greatest length of a beginning of that suffix
which the pattern fits. -/

namespace Worksheet.Text

inductive GlobItem where
  | anyText
  | anyChar
  | letter (char : Char)

abbrev Glob := List GlobItem

def GlobItem.ofChar : Char → GlobItem
  | '*' => .anyText
  | '?' => .anyChar
  | char => .letter char

def Glob.ofText (pattern : Text) : Glob :=
  pattern.map GlobItem.ofChar

def hasWildcards (text : Text) : Bool :=
  text.contains '*' || text.contains '?'

def GlobItem.accepts : GlobItem → Char → Bool
  | .anyText, _ => true
  | .anyChar, _ => true
  | .letter expected, char => sameUpToCase expected char

def longer : Option Nat → Option Nat → Option Nat
  | none, other => other
  | some length, none => some length
  | some left, some right => some (max left right)

/-- One entry for each suffix of the text, the empty one last: the length that the empty pattern fits. -/
def Glob.emptyLengths (tiedToEnd : Bool) : Text → List (Option Nat)
  | [] => [some 0]
  | _ :: rest => (if tiedToEnd then none else some 0) :: emptyLengths tiedToEnd rest

def GlobItem.extend (item : GlobItem) : Text → List (Option Nat) → List (Option Nat)
  | [], lengths =>
    match item with
    | .anyText => lengths.take 1
    | _ => [none]
  | char :: text, lengths =>
    let later := extend item text lengths.tail
    match item with
    | .anyText => longer (lengths.headD none) ((later.headD none).map (· + 1)) :: later
    | _ =>
      (if item.accepts char then (lengths.tail.headD none).map (· + 1) else none) :: later

def Glob.lengths (tiedToEnd : Bool) (text : Text) : Glob → List (Option Nat)
  | [] => emptyLengths tiedToEnd text
  | item :: rest => item.extend text (lengths tiedToEnd text rest)

def Glob.fits (pattern : Glob) (text : Text) : Bool :=
  ((pattern.lengths true text).headD none).isSome

def firstEntry : Nat → List (Option Nat) → Option (Nat × Nat)
  | _, [] => none
  | start, none :: rest => firstEntry (start + 1) rest
  | start, some length :: _ => some (start, start + length)

def Glob.search (pattern : Glob) (tiedToEnd : Bool) (text : Text) (start : Nat) : Option (Nat × Nat) :=
  firstEntry start (pattern.lengths tiedToEnd (text.drop start))

end Worksheet.Text
