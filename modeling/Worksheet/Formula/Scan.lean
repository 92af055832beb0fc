import Worksheet.Formula.Token

/-! Reading argument text from left to right: which characters stand inside a quoted literal and how many parentheses
are open. A quote opens a literal only where an operand can begin, that is at the start or after an operator other
than a closing parenthesis; the apostrophe in a word is plain text. -/

namespace Worksheet

/-- The state before a character; `previous` is the last character that is not white space. -/
structure Scan where
  quote : Option Char
  depth : Int
  previous : Option Char
  deriving DecidableEq

namespace Scan

def start : Scan := ⟨none, 0, none⟩

def beginsOperand : Option Char → Bool
  | none => true
  | some char => Token.isOperatorChar char && char != ')'

def opensQuote (scan : Scan) (char : Char) : Bool :=
  Token.isQuote char && beginsOperand scan.previous

def see (scan : Scan) (char : Char) : Option Char :=
  if Text.isBlank char then scan.previous else some char

def step (scan : Scan) (char : Char) : Scan :=
  match scan.quote with
  | some close => ⟨if char = close then none else some close, scan.depth, scan.see char⟩
  | none =>
    if scan.opensQuote char then ⟨some char, scan.depth, scan.see char⟩
    else if char = '(' then ⟨none, scan.depth + 1, scan.see char⟩
    else if char = ')' then ⟨none, scan.depth - 1, scan.see char⟩
    else ⟨none, scan.depth, scan.see char⟩

def isOutside (scan : Scan) : Bool :=
  scan.quote.isNone && scan.depth == 0

def run (scan : Scan) (text : Text) : Scan :=
  text.foldl step scan

/-- Whether the character at an index is a quote that opens a literal, judged by the text before it. A
negative index counts from the end, and nothing is seen to come before it. -/
def opensQuoteAt (text : Text) (index : Int) : Except Failure Bool :=
  let before := if index < 0 then text.length + index else index
  match if before < 0 then none else text[before.toNat]? with
  | none => .error .noSuchPosition
  | some char =>
    .ok ((if index < 0 then start else start.run (text.take before.toNat)).opensQuote char)

/-- The pieces between the commas that stand outside; `piece` is the current one reversed. A blank piece
after the last comma is left out. -/
def splitFrom (scan : Scan) (piece : Text) : Text → List Text
  | [] => if (Text.strip piece.reverse).isEmpty then [] else [Text.strip piece.reverse]
  | char :: rest =>
    if char = ',' ∧ scan.isOutside then
      Text.strip piece.reverse :: splitFrom (scan.step char) [] rest
    else splitFrom (scan.step char) (char :: piece) rest

def splitArguments (text : Text) : List Text :=
  splitFrom start [] text

/-- The first parenthesis closed again is closed by the last character. -/
def closesAtEnd (scan : Scan) : Text → Bool
  | [] => false
  | char :: rest =>
    let next := scan.step char
    if char = ')' ∧ scan.quote.isNone ∧ next.depth = 0 then rest.isEmpty else closesAtEnd next rest

theorem length_le_of_mem_splitFrom {scan : Scan} {piece text found : Text}
    (member : found ∈ splitFrom scan piece text) : found.length ≤ piece.length + text.length := by
  induction text generalizing scan piece with
  | nil =>
    have bound := Text.length_strip_le piece.reverse
    simp only [List.length_reverse] at bound
    simp only [splitFrom] at member
    split at member
    · simp at member
    · simp only [List.mem_singleton] at member
      subst member
      simpa using bound
  | cons char rest ih =>
    simp only [splitFrom] at member
    split at member
    · simp only [List.mem_cons] at member
      rcases member with rfl | member
      · have bound := Text.length_strip_le piece.reverse
        simp only [List.length_reverse] at bound
        omega
      · have bound := ih member
        simp only [List.length_cons, List.length_nil] at bound ⊢
        omega
    · have bound := ih member
      simp only [List.length_cons] at bound ⊢
      omega

theorem length_le_of_mem_splitArguments {text found : Text} (member : found ∈ splitArguments text) :
    found.length ≤ text.length := by
  simpa using length_le_of_mem_splitFrom member

end Scan

end Worksheet
