import Mathlib.Data.List.Basic
import Mathlib.Data.List.TakeWhile
import Worksheet.Formula.Token

/-! What the tokens of an expression are and where they come from. A token is an operator, a merged comparison, a
literal between two quotes or a word, and only the last one may be a literal that no quote ends. Every token is a
piece of the text, and folding calls makes only tokens with a parenthesis in them, so a token that names a cell stands
in the text as it is. -/

namespace Worksheet.Token

/-! ## The characters of a token -/

def isWordChar (char : Char) : Bool :=
  !isQuote char && !isOperatorChar char && !Text.isBlank char

theorem isWordChar_iff {char : Char} :
    isWordChar char = true ↔ isQuote char = false ∧ isOperatorChar char = false ∧ Text.isBlank char = false := by
  simp [isWordChar, and_assoc]

theorem isQuote_iff {char : Char} : isQuote char = true ↔ char = '"' ∨ char = '\'' := by
  simp [isQuote]

theorem not_isBlank_of_isQuote {char : Char} (quote : isQuote char = true) : Text.isBlank char = false := by
  rcases isQuote_iff.mp quote with rfl | rfl
  · decide
  · decide

theorem not_isLetter_of_isQuote {char : Char} (quote : isQuote char = true) : Text.isLetter char = false := by
  rcases isQuote_iff.mp quote with rfl | rfl
  · decide +kernel
  · decide +kernel

theorem not_isComparisonChar_of_isQuote {char : Char} (quote : isQuote char = true) :
    isComparisonChar char = false := by
  rcases isQuote_iff.mp quote with rfl | rfl
  · decide
  · decide

theorem not_isQuote_of_isOperatorChar {char : Char} (operator : isOperatorChar char = true) :
    isQuote char = false := by
  cases quote : isQuote char with
  | false => rfl
  | true =>
    rcases isQuote_iff.mp quote with rfl | rfl
    · revert operator
      decide
    · revert operator
      decide

theorem isOperatorChar_of_isComparisonChar {char : Char} (comparison : isComparisonChar char = true) :
    isOperatorChar char = true := by
  simp only [isComparisonChar, Bool.or_eq_true, beq_iff_eq] at comparison
  rcases comparison with (rfl | rfl) | rfl
  · decide
  · decide
  · decide

theorem isBlank_of_isOperatorChar {char : Char} (operator : isOperatorChar char = true) :
    Text.isBlank char = false := by
  have table : (operators.all fun char => !Text.isBlank char) = true := by decide
  have visible := List.all_eq_true.mp table char (List.contains_iff_mem.mp operator)
  simpa using visible

theorem isOperatorChar_of_extendsComparison {char : Char} (extending : extendsComparison char = true) :
    isOperatorChar char = true := by
  simp only [extendsComparison, Bool.or_eq_true, beq_iff_eq] at extending
  rcases extending with rfl | rfl
  · decide
  · decide

theorem isBlank_of_extendsComparison {char : Char} (extending : extendsComparison char = true) :
    Text.isBlank char = false :=
  isBlank_of_isOperatorChar (isOperatorChar_of_extendsComparison extending)

theorem not_extendsComparison_of_isBlank {char : Char} (blank : Text.isBlank char = true) :
    extendsComparison char = false := by
  cases extending : extendsComparison char with
  | false => rfl
  | true =>
    rw [isBlank_of_extendsComparison extending] at blank
    cases blank

theorem not_isQuote_of_isBlank {char : Char} (blank : Text.isBlank char = true) : isQuote char = false := by
  cases quote : isQuote char with
  | false => rfl
  | true =>
    rw [not_isBlank_of_isQuote quote] at blank
    cases blank

theorem not_isOperatorChar_of_isBlank {char : Char} (blank : Text.isBlank char = true) :
    isOperatorChar char = false := by
  cases operator : isOperatorChar char with
  | false => rfl
  | true =>
    rw [isBlank_of_isOperatorChar operator] at blank
    cases blank

/-! ## The steps of the scan -/

theorem flush_nil (later : List Token) : flush [] later = later := by
  rfl

theorem mem_flush {word : Text} {later : List Token} {token : Token} (member : token ∈ flush word later) :
    token = word.reverse ∨ token ∈ later := by
  unfold flush at member
  split at member
  · exact Or.inr member
  · exact List.mem_cons.mp member

theorem scan_quote {quote : Char} (isQuote : isQuote quote = true) (word rest : Text) :
    scan none word (quote :: rest) = flush word (scan (some quote) [quote] rest) := by
  conv => lhs; unfold scan
  exact if_pos isQuote

theorem scan_merged {char next : Char} (comparison : isComparisonChar char = true)
    (extending : extendsComparison next = true) (word rest : Text) :
    scan none word (char :: next :: rest) = flush word ([char, next] :: scan none [] rest) := by
  have operator := isOperatorChar_of_isComparisonChar comparison
  have notQuote := not_isQuote_of_isOperatorChar operator
  simp [scan, notQuote, operator, comparison, extending]

theorem scan_operator {char : Char} {rest : Text} (operator : isOperatorChar char = true)
    (single : ∀ next ∈ rest.head?, (isComparisonChar char && extendsComparison next) = false) (word : Text) :
    scan none word (char :: rest) = flush word ([char] :: scan none [] rest) := by
  have notQuote := not_isQuote_of_isOperatorChar operator
  conv => lhs; unfold scan
  cases rest with
  | nil => simp [notQuote, operator, scan, flush]
  | cons next later => simp [notQuote, operator, single next rfl]

theorem scan_space {char : Char} (blank : Text.isBlank char = true) (word rest : Text) :
    scan none word (char :: rest) = flush word (scan none [] rest) := by
  have notQuote := not_isQuote_of_isBlank blank
  have notOperator := not_isOperatorChar_of_isBlank blank
  conv => lhs; unfold scan
  simp [notQuote, notOperator, blank]

theorem scan_letter {char : Char} (letter : isWordChar char = true) (word rest : Text) :
    scan none word (char :: rest) = scan none (char :: word) rest := by
  obtain ⟨notQuote, notOperator, visible⟩ := isWordChar_iff.mp letter
  conv => lhs; unfold scan
  simp [notQuote, notOperator, visible]

/-- Along the scan, by what a character does to the token under way. -/
@[elab_as_elim] theorem scan_induction {motive : Option Char → Text → Text → List Token → Prop}
    (finish : ∀ quote word, motive quote word [] (flush word []))
    (close : ∀ quote word rest tokens, motive none [] rest tokens →
      motive (some quote) word (quote :: rest) ((quote :: word).reverse :: tokens))
    (inside : ∀ quote word char rest tokens, char ≠ quote → motive (some quote) (char :: word) rest tokens →
      motive (some quote) word (char :: rest) tokens)
    (opens : ∀ word quote rest tokens, isQuote quote = true → motive (some quote) [quote] rest tokens →
      motive none word (quote :: rest) (flush word tokens))
    (merged : ∀ word char next rest tokens, isComparisonChar char = true → extendsComparison next = true →
      motive none [] rest tokens → motive none word (char :: next :: rest) (flush word ([char, next] :: tokens)))
    (operator : ∀ word char rest tokens, isOperatorChar char = true → motive none [] rest tokens →
      motive none word (char :: rest) (flush word ([char] :: tokens)))
    (space : ∀ word char rest tokens, Text.isBlank char = true → motive none [] rest tokens →
      motive none word (char :: rest) (flush word tokens))
    (letter : ∀ word char rest tokens, isWordChar char = true → motive none (char :: word) rest tokens →
      motive none word (char :: rest) tokens)
    (quote : Option Char) (word text : Text) : motive quote word text (scan quote word text) := by
  induction quote, word, text using scan.induct with
  | case1 quote word =>
    rw [scan]
    exact finish quote word
  | case2 word rest quote ih =>
    simp only [scan, ↓reduceIte]
    exact close quote word rest _ ih
  | case3 word char rest quote different ih =>
    simp only [scan, different, ↓reduceIte]
    exact inside quote word char rest _ different ih
  | case4 word char rest isQuote ih =>
    rw [scan_quote isQuote]
    exact opens word char rest _ isQuote ih
  | case5 word char notQuote isOperator next later both ih =>
    obtain ⟨comparison, extending⟩ := Bool.and_eq_true_iff.mp both
    rw [scan_merged comparison extending]
    exact merged word char next later _ comparison extending ih
  | case6 word char notQuote isOperator next later single ih =>
    rw [scan_operator isOperator (by simpa using single)]
    exact operator word char _ _ isOperator ih
  | case7 word char notQuote isOperator =>
    rw [scan_operator isOperator (by simp)]
    exact operator word char [] _ isOperator (finish none [])
  | case8 word char rest notQuote notOperator blank ih =>
    rw [scan_space blank]
    exact space word char rest _ blank ih
  | case9 word char rest notQuote notOperator visible ih =>
    have isLetter : isWordChar char = true := by simpa [isWordChar, notQuote, notOperator] using visible
    rw [scan_letter isLetter]
    exact letter word char rest _ isLetter ih

/-! ## Tokens are pieces of the text -/

theorem isInfix_of_flush {word rest : Text} {later : List Token} (onward : ∀ token ∈ later, token <:+: rest) :
    ∀ token ∈ flush word later, token <:+: word.reverse ++ rest := by
  intro token member
  rcases mem_flush member with rfl | member
  · exact (List.prefix_append _ _).isInfix
  · exact List.infix_append_of_infix_right (onward token member)

theorem isInfix_of_mem_scan (quote : Option Char) (word text : Text) :
    ∀ token ∈ scan quote word text, token <:+: word.reverse ++ text := by
  induction quote, word, text using scan_induction with
  | finish quote word => exact isInfix_of_flush (List.forall_mem_nil _)
  | close quote word rest tokens ih =>
    refine List.forall_mem_cons.mpr ⟨⟨[], rest, by simp⟩, fun token member => ?_⟩
    exact List.infix_append_of_infix_right (List.infix_cons (ih token member))
  | inside quote word char rest tokens different ih => simpa using ih
  | opens word quote rest tokens isQuote ih => exact isInfix_of_flush ih
  | merged word char next rest tokens comparison extending ih =>
    refine isInfix_of_flush (List.forall_mem_cons.mpr ⟨⟨[], rest, rfl⟩, fun token member => ?_⟩)
    exact List.infix_cons (List.infix_cons (ih token member))
  | operator word char rest tokens operator ih =>
    refine isInfix_of_flush (List.forall_mem_cons.mpr ⟨⟨[], rest, rfl⟩, fun token member => ?_⟩)
    exact List.infix_cons (ih token member)
  | space word char rest tokens blank ih =>
    exact isInfix_of_flush fun token member => List.infix_cons (ih token member)
  | letter word char rest tokens letter ih => simpa using ih

theorem isInfix_of_mem_ofText {text : Text} {token : Token} (member : token ∈ ofText text) :
    token <:+: text :=
  isInfix_of_mem_scan none [] text token member

/-! ## The shape of each token -/

inductive Complete : Token → Prop
  | operator {char : Char} : isOperatorChar char = true → Complete [char]
  | comparison {first second : Char} : isComparisonChar first = true → extendsComparison second = true →
      Complete [first, second]
  | quoted {quote : Char} {inner : Text} : isQuote quote = true → quote ∉ inner →
      Complete (quote :: (inner ++ [quote]))
  | word {word : Text} : word ≠ [] → (∀ char ∈ word, isWordChar char = true) → Complete word

def Unclosed (token : Token) : Prop :=
  ∃ quote inner, isQuote quote = true ∧ quote ∉ inner ∧ token = quote :: inner

/-- Every token is complete, but the last may be a literal without an end. -/
inductive Shaped : List Token → Prop
  | nil : Shaped []
  | last {token : Token} : Unclosed token → Shaped [token]
  | cons {token : Token} {rest : List Token} : Complete token → Shaped rest → Shaped (token :: rest)

/-- The token under way, reversed: a word, or a literal up to now. -/
def Begun (quote : Option Char) (word : Text) : Prop :=
  match quote with
  | none => ∀ char ∈ word, isWordChar char = true
  | some close => isQuote close = true ∧ ∃ inner, close ∉ inner ∧ word.reverse = close :: inner

theorem shaped_flush {word : Text} {later : List Token} (begun : Begun none word) (shaped : Shaped later) :
    Shaped (flush word later) := by
  unfold flush
  split
  next => exact shaped
  next nonempty =>
    refine .cons (.word ?_ ?_) shaped
    · simpa using nonempty
    · intro char member
      exact begun char (List.mem_reverse.mp member)

theorem begun_nil : Begun none [] := by
  intro char member
  cases member

theorem shaped_scan (quote : Option Char) (word text : Text) (begun : Begun quote word) :
    Shaped (scan quote word text) := by
  induction quote, word, text using scan_induction with
  | finish quote word =>
    cases quote with
    | none => exact shaped_flush begun .nil
    | some close =>
      obtain ⟨isQuote, inner, absent, whole⟩ := begun
      have nonempty : word.isEmpty = false := by
        cases word with
        | nil => cases whole
        | cons _ _ => rfl
      rw [flush, nonempty, whole]
      exact .last ⟨close, inner, isQuote, absent, rfl⟩
  | close quote word rest tokens ih =>
    obtain ⟨isQuote, inner, absent, whole⟩ := begun
    rw [List.reverse_cons, whole]
    exact .cons (.quoted isQuote absent) (ih begun_nil)
  | inside quote word char rest tokens different ih =>
    obtain ⟨isQuote, inner, absent, whole⟩ := begun
    refine ih ⟨isQuote, inner ++ [char], ?_, ?_⟩
    · intro member
      rcases List.mem_append.mp member with inside | last
      · exact absent inside
      · exact different (List.mem_singleton.mp last).symm
    · simp [whole]
  | opens word quote rest tokens isQuote ih =>
    exact shaped_flush begun (ih ⟨isQuote, [], List.not_mem_nil, rfl⟩)
  | merged word char next rest tokens comparison extending ih =>
    exact shaped_flush begun (.cons (.comparison comparison extending) (ih begun_nil))
  | operator word char rest tokens operator ih =>
    exact shaped_flush begun (.cons (.operator operator) (ih begun_nil))
  | space word char rest tokens blank ih => exact shaped_flush begun (ih begun_nil)
  | letter word char rest tokens letter ih => exact ih (List.forall_mem_cons.mpr ⟨letter, begun⟩)

theorem shaped_ofText (text : Text) : Shaped (ofText text) :=
  shaped_scan none [] text begun_nil

theorem Shaped.complete_or_unclosed {tokens : List Token} (shaped : Shaped tokens) :
    ∀ token ∈ tokens, Complete token ∨ Unclosed token := by
  induction shaped with
  | nil => exact List.forall_mem_nil _
  | last unclosed => exact List.forall_mem_singleton.mpr (Or.inr unclosed)
  | cons complete _ ih => exact List.forall_mem_cons.mpr ⟨Or.inl complete, ih⟩

theorem Complete.ne_nil {token : Token} (complete : Complete token) : token ≠ [] := by
  cases complete with
  | operator _ => exact List.cons_ne_nil _ _
  | comparison _ _ => exact List.cons_ne_nil _ _
  | quoted _ _ => exact List.cons_ne_nil _ _
  | word nonempty _ => exact nonempty

theorem ne_nil_of_mem_ofText {text : Text} {token : Token} (member : token ∈ ofText text) : token ≠ [] := by
  rcases (shaped_ofText text).complete_or_unclosed token member with complete | ⟨quote, inner, _, _, rfl⟩
  · exact complete.ne_nil
  · exact List.cons_ne_nil _ _

/-! ## Folded calls -/

theorem foldCalls_call {token : Token} {rest group after : List Token}
    (found : callGroup? token rest = some (group, after)) :
    foldCalls (token :: rest) = (token ++ group.flatten) :: foldCalls after := by
  rw [foldCalls]
  split
  next found' =>
    rw [found] at found'
    cases found'
    rfl
  next none =>
    rw [found] at none
    cases none

theorem foldCalls_single {token : Token} {rest : List Token} (none : callGroup? token rest = none) :
    foldCalls (token :: rest) = token :: foldCalls rest := by
  rw [foldCalls]
  split
  next found =>
    rw [none] at found
    cases found
  next => rfl

theorem open_mem_callGroup {token : Token} {rest group after : List Token}
    (found : callGroup? token rest = some (group, after)) : ['('] ∈ group := by
  unfold callGroup? at found
  split at found
  · rename_i opens
    simp only [Bool.and_eq_true, beq_iff_eq] at opens
    cases rest with
    | nil => simp at opens
    | cons first later =>
      simp only [List.head?_cons, Option.some.injEq] at opens
      rw [opens.2, takeGroup, if_pos rfl] at found
      obtain ⟨⟨inner, behind⟩, _, equal⟩ := Option.map_eq_some_iff.mp found
      cases equal
      simp
  · cases found

theorem after_isSuffix_of_callGroup {token : Token} {rest group after : List Token}
    (found : callGroup? token rest = some (group, after)) : after <:+ rest := by
  unfold callGroup? at found
  split at found
  · exact ⟨group, takeGroup_append found⟩
  · cases found

/-- A token after folding was one before, unless it is a call. -/
theorem mem_or_open_mem_of_mem_foldCalls {tokens : List Token} {token : Token}
    (member : token ∈ foldCalls tokens) : token ∈ tokens ∨ '(' ∈ token := by
  induction tokens using foldCalls.induct with
  | case1 => simp [foldCalls] at member
  | case2 first rest group after found ih =>
    rw [foldCalls_call found] at member
    rcases List.mem_cons.mp member with rfl | member
    · have parenthesis : '(' ∈ group.flatten :=
        List.mem_flatten.mpr ⟨['('], open_mem_callGroup found, by simp⟩
      exact Or.inr (List.mem_append_right _ parenthesis)
    · rcases ih member with earlier | parenthesis
      · exact Or.inl (List.mem_cons_of_mem _ ((after_isSuffix_of_callGroup found).subset earlier))
      · exact Or.inr parenthesis
  | case3 first rest none ih =>
    rw [foldCalls_single none] at member
    rcases List.mem_cons.mp member with rfl | member
    · exact Or.inl (by simp)
    · rcases ih member with earlier | parenthesis
      · exact Or.inl (List.mem_cons_of_mem _ earlier)
      · exact Or.inr parenthesis

theorem ne_nil_of_mem_foldCalls {tokens : List Token} {token : Token}
    (nonempty : ∀ original ∈ tokens, original ≠ []) (member : token ∈ foldCalls tokens) : token ≠ [] := by
  rcases mem_or_open_mem_of_mem_foldCalls member with original | parenthesis
  · exact nonempty token original
  · exact List.ne_nil_of_mem parenthesis

end Worksheet.Token
