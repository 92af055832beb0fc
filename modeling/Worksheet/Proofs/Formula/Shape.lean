import Worksheet.Proofs.Formula.Token
import Worksheet.Proofs.Text.Cut

/-! Tokens lose nothing and are stable. Side by side they are the text without the white space outside quotes, and
with a space between each two they are read as the same tokens again. -/

namespace Worksheet.Token

/-- The text without the white space outside quotes; `quote` is the one that is open. -/
def condense (quote : Option Char) : Text → Text
  | [] => []
  | char :: rest =>
    match quote with
    | some close => char :: condense (if char = close then none else some close) rest
    | none =>
      if Text.isBlank char then condense none rest
      else char :: condense (if isQuote char then some char else none) rest

theorem flatten_flush (word : Text) (later : List Token) :
    (flush word later).flatten = word.reverse ++ later.flatten := by
  unfold flush
  split
  next empty => simp [List.isEmpty_iff.mp empty]
  next => rfl

theorem condense_operator {char : Char} (operator : isOperatorChar char = true) (rest : Text) :
    condense none (char :: rest) = char :: condense none rest := by
  have visible := isBlank_of_isOperatorChar operator
  have plain := not_isQuote_of_isOperatorChar operator
  simp [condense, visible, plain]

theorem flatten_scan (quote : Option Char) (word text : Text) :
    (scan quote word text).flatten = word.reverse ++ condense quote text := by
  induction quote, word, text using scan_induction with
  | finish quote word => simp [flatten_flush, condense]
  | close quote word rest tokens ih => simp [condense, ih]
  | inside quote word char rest tokens different ih => simp [condense, different, ih]
  | opens word quote rest tokens isQuote ih =>
    have visible := not_isBlank_of_isQuote isQuote
    simp [flatten_flush, ih, condense, isQuote, visible]
  | merged word char next rest tokens comparison extending ih =>
    rw [condense_operator (isOperatorChar_of_isComparisonChar comparison),
      condense_operator (isOperatorChar_of_extendsComparison extending)]
    simp [flatten_flush, ih]
  | operator word char rest tokens operator ih =>
    rw [condense_operator operator]
    simp [flatten_flush, ih]
  | space word char rest tokens blank ih => simp [flatten_flush, ih, condense, blank]
  | letter word char rest tokens letter ih =>
    obtain ⟨notQuote, _, visible⟩ := isWordChar_iff.mp letter
    simp [ih, condense, notQuote, visible]

theorem scan_word {word : Text} (begun : Text) (rest : Text) (chars : ∀ char ∈ word, isWordChar char = true) :
    scan none begun (word ++ rest) = scan none (word.reverse ++ begun) rest := by
  induction word generalizing begun with
  | nil => rfl
  | cons char word ih =>
    obtain ⟨letter, others⟩ := List.forall_mem_cons.mp chars
    rw [List.cons_append, scan_letter letter, ih (char :: begun) others]
    simp

theorem scan_literal {close : Char} {inner : Text} (begun rest : Text) (absent : close ∉ inner) :
    scan (some close) begun (inner ++ rest) = scan (some close) (inner.reverse ++ begun) rest := by
  induction inner generalizing begun with
  | nil => rfl
  | cons char inner ih =>
    have different : char ≠ close := by
      rintro rfl
      exact absent List.mem_cons_self
    have onward : close ∉ inner := fun member => absent (List.mem_cons_of_mem char member)
    simp only [List.cons_append, scan, different, ↓reduceIte]
    rw [ih (char :: begun) onward]
    simp

def Ends (rest : Text) : Prop :=
  ∀ char ∈ rest.head?, Text.isBlank char = true

theorem scan_word_ends {word rest : Text} (nonempty : word ≠ []) (ends : Ends rest) :
    scan none word.reverse rest = word :: scan none [] rest := by
  have begun : word.reverse.isEmpty = false := by simpa using nonempty
  cases rest with
  | nil => simp [scan, flush, begun]
  | cons char later =>
    rw [scan_space (ends char rfl), scan_space (ends char rfl)]
    simp [flush, begun]

theorem scan_operator_ends {char : Char} {rest : Text} (operator : isOperatorChar char = true)
    (ends : Ends rest) : scan none [] (char :: rest) = [char] :: scan none [] rest := by
  refine scan_operator operator (fun next follows => ?_) []
  rw [not_extendsComparison_of_isBlank (ends next follows), Bool.and_false]

theorem Complete.scan {token : Token} (complete : Complete token) {rest : Text} (ends : Ends rest) :
    scan none [] (token ++ rest) = token :: Token.scan none [] rest := by
  cases complete with
  | operator operator => exact scan_operator_ends operator ends
  | @comparison first second comparison extending =>
    exact scan_merged comparison extending [] rest
  | @quoted quote inner isQuote absent =>
    have close : Token.scan (some quote) (inner.reverse ++ [quote]) (quote :: rest)
        = (quote :: (inner ++ [quote])) :: Token.scan none [] rest := by
      simp [Token.scan]
    rw [List.cons_append, List.append_assoc, scan_quote isQuote, flush_nil, scan_literal [quote] _ absent]
    exact close
  | word nonempty chars =>
    rw [scan_word [] rest chars, List.append_nil]
    exact scan_word_ends nonempty ends

theorem Unclosed.scan {token : Token} (unclosed : Unclosed token) : scan none [] token = [token] := by
  obtain ⟨quote, inner, isQuote, absent, rfl⟩ := unclosed
  have whole := scan_literal [quote] [] absent
  rw [List.append_nil] at whole
  rw [scan_quote isQuote, flush_nil, whole]
  simp [Token.scan, flush]

theorem ofText_join {tokens : List Token} (shaped : Shaped tokens) :
    ofText (Text.join [' '] tokens) = tokens := by
  unfold ofText
  induction shaped with
  | nil => rfl
  | last unclosed => exact unclosed.scan
  | @cons token rest complete later ih =>
    cases rest with
    | nil =>
      have nothing : Ends [] := by
        intro char member
        cases member
      have alone := complete.scan nothing
      rw [List.append_nil] at alone
      exact alone
    | cons next others =>
      have space : Text.isBlank ' ' = true := by decide
      have ends : Ends (' ' :: Text.join [' '] (next :: others)) := by
        intro char member
        cases member
        exact space
      rw [Text.join_cons (by simp), List.append_assoc, List.singleton_append, complete.scan ends,
        scan_space space, flush_nil, ih]

/-- Side by side the tokens of a text are the text without the white space outside quotes. Each is an operator,
a merged comparison, a quoted literal or a word, but the last may be a literal without an end; and with a space
between each two they are read as the same tokens again. -/
theorem ofText_shape (text : Text) :
    (ofText text).flatten = condense none text ∧ Shaped (ofText text) ∧
      ofText (Text.join [' '] (ofText text)) = ofText text := by
  have shaped := shaped_ofText text
  refine ⟨?_, shaped, ofText_join shaped⟩
  rw [ofText, flatten_scan]
  rfl

example : ofText "it's >= 2".toList = ["it".toList, "'s >= 2".toList] := by decide +kernel

end Worksheet.Token
