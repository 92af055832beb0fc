import Worksheet.Address
import Worksheet.Failure
import Worksheet.Number.Literal

/-! Tokens of formula text. A quoted literal runs to the next quote of its kind, an operator stands for itself, two
comparison characters merge, white space parts tokens, and whatever is left is a word. -/

namespace Worksheet

abbrev Token := Text

namespace Token

def operators : List Char :=
  ['+', '-', '*', '/', '^', '%', '(', ')', ',', ':', '<', '>', '=']

def isOperatorChar (char : Char) : Bool :=
  operators.contains char

def isQuote (char : Char) : Bool :=
  char == '"' || char == '\''

def isComparisonChar (char : Char) : Bool :=
  char == '<' || char == '>' || char == '='

def extendsComparison (char : Char) : Bool :=
  char == '=' || char == '>'

def flush (word : Text) (later : List Token) : List Token :=
  if word.isEmpty then later else word.reverse :: later

/-- `word` is the token under way, reversed, and `quote` the quote that it waits for. -/
def scan (quote : Option Char) (word : Text) : Text → List Token
  | [] => flush word []
  | char :: rest =>
    match quote with
    | some close =>
      if char = close then (char :: word).reverse :: scan none [] rest
      else scan quote (char :: word) rest
    | none =>
      if isQuote char then flush word (scan (some char) [char] rest)
      else if isOperatorChar char then
        match rest with
        | next :: later =>
          if isComparisonChar char && extendsComparison next then
            flush word ([char, next] :: scan none [] later)
          else flush word ([char] :: scan none [] (next :: later))
        | [] => flush word [[char]]
      else if Text.isBlank char then flush word (scan none [] rest)
      else scan none (char :: word) rest

def ofText (text : Text) : List Token :=
  scan none [] text

def isQuoted (token : Token) : Bool :=
  match token with
  | first :: second :: rest => isQuote first && (second :: rest).getLast? == some first
  | _ => false

def unquote (token : Token) : Text :=
  (token.drop 1).dropLast

def isOperator (token : Token) : Bool :=
  match token with
  | [char] => isOperatorChar char
  | _ => false

def startsComparison (token : Token) : Bool :=
  match token with
  | char :: _ => isComparisonChar char
  | [] => false

def isWord (token : Token) : Bool :=
  !token.isEmpty && !isOperator token && !isQuoted token && !startsComparison token

/-- The tokens up to the parenthesis that closes the group, with `depth` parentheses already open, and the
tokens after it. -/
def takeGroup (depth : Nat) : List Token → Option (List Token × List Token)
  | [] => none
  | token :: rest =>
    if token = ['('] then
      (takeGroup (depth + 1) rest).map fun (group, after) => (token :: group, after)
    else if token = [')'] then
      if depth ≤ 1 then some ([token], rest)
      else (takeGroup (depth - 1) rest).map fun (group, after) => (token :: group, after)
    else (takeGroup depth rest).map fun (group, after) => (token :: group, after)

theorem takeGroup_append {depth : Nat} {tokens group after : List Token}
    (taken : takeGroup depth tokens = some (group, after)) : group ++ after = tokens := by
  induction tokens generalizing depth group with
  | nil => simp [takeGroup] at taken
  | cons token rest ih =>
    simp only [takeGroup] at taken
    split at taken
    · obtain ⟨⟨inner, later⟩, found, equal⟩ := Option.map_eq_some_iff.1 taken
      cases equal
      simp [ih found]
    · split at taken
      · split at taken
        · cases taken; rfl
        · obtain ⟨⟨inner, later⟩, found, equal⟩ := Option.map_eq_some_iff.1 taken
          cases equal
          simp [ih found]
      · obtain ⟨⟨inner, later⟩, found, equal⟩ := Option.map_eq_some_iff.1 taken
        cases equal
        simp [ih found]

def callGroup? (token : Token) (rest : List Token) : Option (List Token × List Token) :=
  if isWord token && rest.head? == some ['('] then takeGroup 0 rest else none

theorem length_callGroup_le {token : Token} {rest group after : List Token}
    (found : callGroup? token rest = some (group, after)) : after.length ≤ rest.length := by
  unfold callGroup? at found
  split at found
  · rw [← takeGroup_append found]
    simp
  · cases found

def foldCalls : List Token → List Token
  | [] => []
  | token :: rest =>
    match _found : callGroup? token rest with
    | some (group, after) => (token ++ group.flatten) :: foldCalls after
    | none => token :: foldCalls rest
termination_by tokens => tokens.length
decreasing_by
  · have := length_callGroup_le _found
    simp only [List.length_cons]
    omega
  · simp

/-- Calls folded in any list of tokens: an empty token that no call takes in has no first character. -/
def foldCalls? (tokens : List Token) : Except Failure (List Token) :=
  let folded := foldCalls tokens
  if folded.contains [] then .error .noSuchPosition else .ok folded

inductive Kind where
  | sign
  | scale
  | other
  | quoted
  | cell
  | number
  | word
  deriving DecidableEq, Repr

def kind (token : Token) : Except Failure Kind :=
  if token = ['+'] ∨ token = ['-'] then .ok .sign
  else if token = ['*'] ∨ token = ['/'] then .ok .scale
  else if token.isEmpty then .error .noSuchPosition
  else if isOperator token || startsComparison token then .ok .other
  else if isQuoted token then .ok .quoted
  else if Address.isCellName token then .ok .cell
  else do
    match ← Number.readPrefix token with
    | some _ => return .number
    | none => return .word

end Token

end Worksheet
