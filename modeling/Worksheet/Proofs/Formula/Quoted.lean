import Worksheet.Proofs.Formula.Comparison
import Worksheet.Proofs.Formula.Literal
import Worksheet.Proofs.Formula.Shape

/-! Two tests for a quoted literal. Reading token by token, a literal ends at the next quote of its kind; a text as a
whole is taken for one by its first and last character. The two agree on every token, and on a whole text unless the
quote that opens it comes again before the end. -/

namespace Worksheet

namespace Token

def Terminated (token : Token) : Prop :=
  ∃ quote inner, isQuote quote = true ∧ quote ∉ inner ∧ token = quote :: (inner ++ [quote])

/-- A text that a literal opens which is closed before the last character. -/
def ClosesEarly (text : Text) : Prop :=
  ∃ quote inner rest, isQuote quote = true ∧ quote ∉ inner ∧ rest ≠ [] ∧ text = quote :: (inner ++ quote :: rest)

theorem isQuoted_iff {text : Text} :
    isQuoted text = true ↔ ∃ quote middle, isQuote quote = true ∧ text = quote :: (middle ++ [quote]) := by
  constructor
  · intro quoted
    unfold isQuoted at quoted
    split at quoted
    next quote second rest =>
      obtain ⟨isQuote, last⟩ := Bool.and_eq_true_iff.mp quoted
      rw [beq_iff_eq] at last
      exact ⟨quote, _, isQuote, congrArg _ (List.dropLast_append_getLast? _ last).symm⟩
    next => cases quoted
  · rintro ⟨quote, middle, isQuote, rfl⟩
    cases middle with
    | nil => simp [isQuoted, isQuote]
    | cons char middle => simp [isQuoted, isQuote, List.getLast?_cons]

theorem Terminated.isQuoted {token : Token} (terminated : Terminated token) : isQuoted token = true := by
  obtain ⟨quote, inner, isQuote, _, whole⟩ := terminated
  exact isQuoted_iff.mpr ⟨quote, inner, isQuote, whole⟩

theorem Terminated.ofText_eq {token : Token} (terminated : Terminated token) : ofText token = [token] := by
  obtain ⟨quote, inner, isQuote, absent, rfl⟩ := terminated
  have nothing : Ends [] := by
    intro char member
    cases member
  have alone := (Complete.quoted isQuote absent).scan nothing
  rw [List.append_nil] at alone
  exact alone

theorem Terminated.not_closesEarly {token : Token} (terminated : Terminated token) : ¬ClosesEarly token := by
  obtain ⟨quote, inner, _, absent, rfl⟩ := terminated
  rintro ⟨other, before, rest, _, _, nonempty, same⟩
  obtain ⟨rfl, tails⟩ := List.cons.inj same
  obtain ⟨start, last, rfl⟩ := List.eq_nil_or_concat rest |>.resolve_left nonempty
  have split : inner ++ [quote] = (before ++ quote :: start) ++ [last] := by simpa using tails
  obtain ⟨whole, _⟩ := List.append_inj' split rfl
  exact absent (by simp [whole])

theorem terminated_or_closesEarly {text : Text} (quoted : isQuoted text = true) :
    Terminated text ∨ ClosesEarly text := by
  obtain ⟨quote, middle, isQuote, rfl⟩ := isQuoted_iff.mp quoted
  by_cases again : quote ∈ middle
  · obtain ⟨inner, rest, rfl, absent⟩ := List.eq_append_cons_of_mem again
    exact Or.inr ⟨quote, inner, rest ++ [quote], isQuote, absent, by simp, by simp⟩
  · exact Or.inl ⟨quote, middle, isQuote, again, rfl⟩

theorem Complete.terminated_of_isQuoted {token : Token} (complete : Complete token)
    (quoted : Token.isQuoted token = true) : Terminated token := by
  obtain ⟨quote, middle, isQuote, whole⟩ := isQuoted_iff.mp quoted
  cases complete with
  | operator _ => simp at whole
  | comparison comparison _ =>
    obtain ⟨rfl, _⟩ := List.cons.inj whole
    rw [not_isQuote_of_isOperatorChar (isOperatorChar_of_isComparisonChar comparison)] at isQuote
    cases isQuote
  | quoted own absent => exact ⟨_, _, own, absent, rfl⟩
  | word _ chars =>
    have plain := (isWordChar_iff.mp (chars quote (by simp [whole]))).1
    rw [isQuote] at plain
    cases plain

theorem Unclosed.not_isQuoted {token : Token} (unclosed : Unclosed token) : Token.isQuoted token = false := by
  obtain ⟨quote, inner, _, absent, rfl⟩ := unclosed
  rw [Bool.eq_false_iff]
  intro quoted
  obtain ⟨other, middle, _, whole⟩ := isQuoted_iff.mp quoted
  obtain ⟨rfl, rest⟩ := List.cons.inj whole
  exact absent (by simp [rest])

theorem isQuoted_iff_of_mem_ofText {text : Text} {token : Token} (member : token ∈ ofText text) :
    isQuoted token = true ↔ Terminated token := by
  refine ⟨fun quoted => ?_, Terminated.isQuoted⟩
  rcases (shaped_ofText text).complete_or_unclosed token member with complete | unclosed
  · exact complete.terminated_of_isQuoted quoted
  · rw [unclosed.not_isQuoted] at quoted
    cases quoted

theorem isQuoted_agrees_iff (text : Text) :
    (isQuoted text = true ↔ ofText text = [text] ∧ Terminated text) ↔
      ¬(isQuoted text = true ∧ ClosesEarly text) := by
  constructor
  · rintro agree ⟨quoted, early⟩
    exact (agree.mp quoted).2.not_closesEarly early
  · intro notEarly
    constructor
    · intro quoted
      rcases terminated_or_closesEarly quoted with terminated | early
      · exact ⟨terminated.ofText_eq, terminated⟩
      · exact absurd ⟨quoted, early⟩ notEarly
    · rintro ⟨_, terminated⟩
      exact terminated.isQuoted

end Token

theorem Relation.apply_ne_text (relation : Relation) (left right : Value) (text : Text) :
    relation.apply left right ≠ .ok (.text text) := by
  unfold apply
  split
  · exact nofun
  · exact nofun
  · split
    · exact nofun
    · intro equal
      obtain ⟨truth, _, same⟩ := bind_eq_ok.mp equal
      cases same

namespace Argument

theorem not_isArithmetic_of_closesEarly {text : Text} (early : Token.ClosesEarly text) :
    isArithmetic (Token.ofText text) = .ok false := by
  obtain ⟨quote, inner, rest, isQuote, absent, _, rfl⟩ := early
  have tokens : Token.ofText (quote :: (inner ++ quote :: rest)) =
      (quote :: (inner ++ [quote])) :: Token.scan none [] rest := by
    rw [Token.ofText, Token.scan_quote isQuote, Token.flush_nil, Token.scan_literal [quote] _ absent]
    simp [Token.scan]
  have notOperand : isArithmeticOperand (quote :: (inner ++ [quote])) = .ok false := by
    have noCell := Address.cellParts_eq_none (Token.not_isLetter_of_isQuote isQuote) (inner ++ [quote])
    simp [isArithmeticOperand, Number.readWhole_of_isQuote isQuote, Address.isCellName, noCell]
    rfl
  rw [tokens, isArithmetic]
  split
  next => rfl
  next =>
    cases Token.scan none [] rest with
    | nil => exact notOperand
    | cons operator later =>
      rw [alternates, notOperand]
      rfl

theorem ofText_of_closesEarly {text : Text} (early : Token.ClosesEarly (Text.strip text))
    (alone : Comparison.find? (Text.strip text) = none) :
    ofText text = .constant (.text
      (if Token.isQuoted (Text.strip text) then Token.unquote (Text.strip text) else Text.strip text)) := by
  have noArithmetic := not_isArithmetic_of_closesEarly early
  obtain ⟨quote, inner, rest, isQuote, _, _, whole⟩ := early
  rw [whole] at alone noArithmetic
  rw [ofText, whole, ofTrimmed_of_noLetter (Token.not_isLetter_of_isQuote isQuote) _ alone, ofPlain,
    Number.readWhole_of_isQuote isQuote]
  by_cases quoted : Token.isQuoted (quote :: (inner ++ quote :: rest)) = true
  · simp [quoted, bind, Except.bind, pure, Except.pure, ofResult]
  · simp [quoted, noArithmetic, bind, Except.bind, pure, Except.pure, ofResult]

theorem resolve_comparison_ne_text (setting : Setting) (view : View) (depth : Int) (keepsErrors : Bool)
    (left right : Argument) (relation : Relation) (text : Text) :
    (resolve setting view depth keepsErrors (.comparison left relation right)).result ≠ .ok (.text text) := by
  rw [resolve]
  intro equal
  obtain ⟨leftValue, _, onward⟩ := Outcome.result_bind_eq_ok.mp equal
  obtain ⟨rightValue, _, last⟩ := Outcome.result_bind_eq_ok.mp onward
  exact relation.apply_ne_text leftValue rightValue text last

/-- Whether a text is one quoted literal is told in the same way by its two ends and by its tokens unless it ends
with the quote that opens it and that quote comes again in between; on the tokens of a text there is no such
exception. An argument that a literal opens which is closed early loses its first and its last character exactly
if it ends with the quote in front as well and is no comparison. -/
theorem quotes_cut_off_iff (text : Text) :
    ((Token.isQuoted text = true ↔ Token.ofText text = [text] ∧ Token.Terminated text) ↔
      ¬(Token.isQuoted text = true ∧ Token.ClosesEarly text)) ∧
    (∀ token ∈ Token.ofText text,
      (Token.isQuoted token = true ↔ Token.ofText token = [token] ∧ Token.Terminated token)) ∧
    (Token.ClosesEarly (Text.strip text) →
      ∀ (setting : Setting) (view : View) (depth : Int) (keepsErrors : Bool),
        ((resolve setting view depth keepsErrors (ofText text)).result =
            .ok (.text (Token.unquote (Text.strip text))) ↔
          Token.isQuoted (Text.strip text) = true ∧ Comparison.find? (Text.strip text) = none)) := by
  refine ⟨Token.isQuoted_agrees_iff text, ?_, ?_⟩
  · intro token member
    rw [Token.isQuoted_iff_of_mem_ofText member]
    exact ⟨fun terminated => ⟨terminated.ofText_eq, terminated⟩, And.right⟩
  · intro early setting view depth keepsErrors
    cases compared : Comparison.find? (Text.strip text) with
    | some found =>
      rw [Comparison.find_strip] at compared
      rw [ofText_of_find compared]
      simp [resolve_comparison_ne_text]
    | none =>
      rw [ofText_of_closesEarly early compared, resolve, Outcome.result_succeed]
      by_cases quoted : Token.isQuoted (Text.strip text) = true
      · simp [quoted]
      · -- Left whole, the text is longer than what is left of it without its ends.
        obtain ⟨quote, inner, rest, _, _, _, whole⟩ := early
        have longer : Text.strip text ≠ Token.unquote (Text.strip text) := by
          intro same
          have lengths := congrArg List.length same
          rw [whole] at lengths
          simp only [Token.unquote, List.drop_succ_cons, List.drop_zero, List.length_dropLast,
            List.length_cons] at lengths
          omega
        simp [quoted, longer]

theorem closesEarly_sum : Token.ClosesEarly (Text.strip "\"a\"+\"b\"".toList) :=
  ⟨'"', ['a'], "+\"b\"".toList, by decide, by decide, by decide, by decide⟩

theorem quotes_cut_off_iff_sum :
    (resolve ⟨64, ⟨0, 0, .utc⟩⟩ (Sheet.view []) 0 false (ofText "\"a\"+\"b\"".toList)).result =
      .ok (.text "a\"+\"b".toList) ∧
    ¬(resolve ⟨64, ⟨0, 0, .utc⟩⟩ (Sheet.view []) 0 false (ofText "\"a\"=\"b\"".toList)).result =
      .ok (.text "a\"=\"b".toList) := by
  have comparison : Token.ClosesEarly (Text.strip "\"a\"=\"b\"".toList) :=
    ⟨'"', ['a'], "=\"b\"".toList, by decide, by decide, by decide, by decide⟩
  constructor
  · have resolved := (quotes_cut_off_iff "\"a\"+\"b\"".toList).2.2 closesEarly_sum
    exact (resolved ⟨64, ⟨0, 0, .utc⟩⟩ (Sheet.view []) 0 false).mpr ⟨by decide, by decide⟩
  · intro same
    have resolved := (quotes_cut_off_iff "\"a\"=\"b\"".toList).2.2 comparison
    have alone := (resolved ⟨64, ⟨0, 0, .utc⟩⟩ (Sheet.view []) 0 false).mp same
    have found : (Comparison.find? (Text.strip "\"a\"=\"b\"".toList)).isSome = true := by decide
    rw [alone.2] at found
    cases found

theorem quotes_cut_off_sum :
    ¬(Token.isQuoted "\"a\"+\"b\"".toList = true ↔
      Token.ofText "\"a\"+\"b\"".toList = ["\"a\"+\"b\"".toList] ∧ Token.Terminated "\"a\"+\"b\"".toList) ∧
    Token.ClosesEarly "\"a\"+\"b\"".toList ∧
    (resolve ⟨64, ⟨0, 0, .utc⟩⟩ (Sheet.view []) 0 false (ofText "\"a\"+\"b\"".toList)).result =
      .ok (.text (Token.unquote "\"a\"+\"b\"".toList)) := by
  refine ⟨?_, closesEarly_sum, by decide +kernel⟩
  intro agree
  have quoted : Token.isQuoted "\"a\"+\"b\"".toList = true := by decide
  exact (agree.mp quoted).2.not_closesEarly closesEarly_sum

end Argument

end Worksheet
