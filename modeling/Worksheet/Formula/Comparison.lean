import Worksheet.Formula.Scan
import Worksheet.Value.Comparison

/-! Comparisons as arguments: two texts with a relation between them, outside quotes and parentheses. -/

namespace Worksheet

inductive Relation where
  | equal
  | notEqual
  | less
  | lessOrEqual
  | greater
  | greaterOrEqual
  deriving DecidableEq, Repr

namespace Relation

def text : Relation → Text
  | equal => ['=']
  | notEqual => ['<', '>']
  | less => ['<']
  | lessOrEqual => ['<', '=']
  | greater => ['>']
  | greaterOrEqual => ['>', '=']

def read (char : Char) (rest : Text) : Relation × Text :=
  match char, rest with
  | '>', '=' :: rest => (greaterOrEqual, rest)
  | '<', '=' :: rest => (lessOrEqual, rest)
  | '<', '>' :: rest => (notEqual, rest)
  | '>', rest => (greater, rest)
  | '<', rest => (less, rest)
  | _, rest => (equal, rest)

theorem length_read_le (char : Char) (rest : Text) : (read char rest).2.length ≤ rest.length := by
  unfold read
  split <;> simp

def isListValue : Value → Bool
  | .list _ => true
  | _ => false

def holds (left right : Value) : Relation → Except Failure Bool
  | equal => left.equal right
  | notEqual => do return !(← left.equal right)
  | less => do return (← left.compare right) == .lt
  | lessOrEqual => do return (← left.compare right) != .gt
  | greater => do return (← left.compare right) == .gt
  | greaterOrEqual => do return (← left.compare right) != .lt

/-- An error code on either side is the result, the left one first; lists cannot be compared. -/
def apply (relation : Relation) (left right : Value) : Except Failure Value :=
  match left, right with
  | .error code, _ => .ok (.error code)
  | _, .error code => .ok (.error code)
  | left, right =>
    if isListValue left || isListValue right then .ok (.error .value)
    else do return .bool (← relation.holds left right)

end Relation

structure Comparison where
  left : Text
  relation : Relation
  right : Text

namespace Comparison

/-- `before` is the text already passed, reversed. A side that is blank makes it no comparison. -/
def findFrom (scan : Scan) (before : Text) : Text → Option Comparison
  | [] => none
  | char :: rest =>
    if Token.isComparisonChar char ∧ scan.isOutside then
      let relation := Relation.read char rest
      let left := Text.strip before.reverse
      let right := Text.strip relation.2
      if left.isEmpty ∨ right.isEmpty then none else some ⟨left, relation.1, right⟩
    else findFrom (scan.step char) (char :: before) rest

def find? (text : Text) : Option Comparison :=
  findFrom Scan.start [] text

theorem length_findFrom {scan : Scan} {before text : Text} {found : Comparison}
    (equal : findFrom scan before text = some found) :
    found.left.length < before.length + text.length ∧
      found.right.length < before.length + text.length := by
  induction text generalizing scan before with
  | nil => simp [findFrom] at equal
  | cons char rest ih =>
    simp only [findFrom] at equal
    split at equal
    · split at equal
      · cases equal
      · simp only [Option.some.injEq] at equal
        subst equal
        have leftBound := Text.length_strip_le before.reverse
        have rightBound := Text.length_strip_le (Relation.read char rest).2
        have restBound := Relation.length_read_le char rest
        simp only [List.length_reverse] at leftBound
        simp only [List.length_cons]
        omega
    · have bounds := ih equal
      simp only [List.length_cons] at bounds ⊢
      omega

theorem length_left_lt {text : Text} {found : Comparison} (equal : find? text = some found) :
    found.left.length < text.length := by
  simpa using (length_findFrom equal).1

theorem length_right_lt {text : Text} {found : Comparison} (equal : find? text = some found) :
    found.right.length < text.length := by
  simpa using (length_findFrom equal).2

end Comparison

end Worksheet
