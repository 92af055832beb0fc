import Worksheet.Formula.Argument
import Worksheet.Proofs.Formula.Grammar

/-! Arithmetic among the arguments. What is taken for arithmetic by its operands and operators alone is an expression,
so its reading never fails. -/

namespace Worksheet

theorem Literal.read_eq_none {first : Char} (notDigit : Text.isDigit first = false) (notPoint : first ≠ '.')
    (notMinus : first ≠ '-') (notPlus : first ≠ '+') (rest : Text) : read (first :: rest) = none := by
  have unsigned : readSign (first :: rest) = (false, first :: rest) := by
    unfold readSign
    split
    next same => exact absurd (List.cons.inj same).1 notMinus
    next same => exact absurd (List.cons.inj same).1 notPlus
    next => rfl
  have noMantissa : readMantissa (first :: rest) = none := by
    have digits : readDigits (first :: rest) = ([], first :: rest) := by simp [readDigits, notDigit]
    simp only [readMantissa, digits]
    split
    next same => exact absurd (List.cons.inj same).1 notPoint
    next => rfl
    next empty _ => cases empty
    next empty _ => cases empty
  simp only [read, unsigned, noMantissa]

theorem Number.readWhole_eq_none {first : Char} {rest : Text} (visible : Text.isBlank first = false)
    (unread : ∀ later, Literal.read (first :: later) = none) : readWhole (first :: rest) = .ok none := by
  obtain ⟨later, stripped⟩ := Text.strip_cons visible rest
  simp only [readWhole, stripped, unread later]

theorem Number.readWhole_of_isQuote {quote : Char} (isQuote : Token.isQuote quote = true) (rest : Text) :
    readWhole (quote :: rest) = .ok none := by
  rcases Token.isQuote_iff.mp isQuote with rfl | rfl
  · exact readWhole_eq_none (by decide) (Literal.read_eq_none (by decide) (by decide) (by decide) (by decide))
  · exact readWhole_eq_none (by decide) (Literal.read_eq_none (by decide) (by decide) (by decide) (by decide))

theorem Number.read_of_readWhole {text : Text} {number : Number} (whole : readWhole text = .ok (some number)) :
    ∃ literal, Literal.read (Text.strip text) = some (literal, []) ∧
      literal.value.map some = .ok (some number) := by
  unfold readWhole at whole
  split at whole
  next literal found => exact ⟨literal, found, whole⟩
  next => cases whole

namespace Token

def opensQuoted (token : Token) : Bool :=
  token.head?.any isQuote

/-- White space stands in a token only if a quote opens it. -/
def Solid (token : Token) : Prop :=
  opensQuoted token = true ∨ ∀ char ∈ token, Text.isBlank char = false

theorem Complete.solid {token : Token} (complete : Complete token) : Solid token := by
  cases complete with
  | operator operator => exact Or.inr (by simp [isBlank_of_isOperatorChar operator])
  | comparison comparison extending =>
    have first := isBlank_of_isOperatorChar (isOperatorChar_of_isComparisonChar comparison)
    have second := isBlank_of_extendsComparison extending
    exact Or.inr (by simp [first, second])
  | quoted isQuote _ => exact Or.inl isQuote
  | word _ chars =>
    refine Or.inr fun char member => ?_
    exact (isWordChar_iff.mp (chars char member)).2.2

theorem solid_of_mem_ofText {text : Text} {token : Token} (member : token ∈ ofText text) : Solid token := by
  rcases (shaped_ofText text).complete_or_unclosed token member with complete | ⟨quote, inner, isQuote, _, rfl⟩
  · exact complete.solid
  · exact Or.inl isQuote

theorem not_sign {token : Token} (noOperator : isOperator token = false) :
    ¬(token = ['+'] ∨ token = ['-']) := by
  rintro (rfl | rfl) <;> revert noOperator <;> decide

theorem not_scale {token : Token} (noOperator : isOperator token = false) :
    ¬(token = ['*'] ∨ token = ['/']) := by
  rintro (rfl | rfl) <;> revert noOperator <;> decide

theorem isOperand_of_readPrefix {token : Token} (nonempty : token ≠ []) (noOperator : isOperator token = false)
    (noComparison : startsComparison token = false) {found : Option Number}
    (read : Number.readPrefix token = .ok found) : ∃ kind, Token.kind token = .ok kind ∧ kind.isOperand = true := by
  have notEmpty : token.isEmpty = false := by simpa using nonempty
  simp only [kind, not_sign noOperator, not_scale noOperator, notEmpty, noOperator, noComparison, read, ↓reduceIte,
    Bool.false_eq_true, Bool.or_self]
  split
  · exact ⟨_, rfl, rfl⟩
  split
  · exact ⟨_, rfl, rfl⟩
  cases found with
  | none => exact ⟨.word, rfl, rfl⟩
  | some number => exact ⟨.number, rfl, rfl⟩

theorem startsComparison_cons {first : Char} {rest : Text} (starts : startsComparison (first :: rest) = true) :
    first = '<' ∨ first = '>' ∨ first = '=' := by
  simpa [startsComparison, isComparisonChar, or_assoc] using starts

theorem isOperator_of_read {token rest : Text} {literal : Literal}
    (read : Literal.read token = some (literal, rest)) : isOperator token = false := by
  have table : (operators.all fun char => (Literal.read [char]).isNone) = true := by decide
  cases operator : isOperator token with
  | false => rfl
  | true =>
    unfold isOperator at operator
    split at operator
    next char =>
      have unread := List.all_eq_true.mp table char (List.contains_iff_mem.mp operator)
      rw [read] at unread
      cases unread
    next => cases operator

theorem startsComparison_of_read {token rest : Text} {literal : Literal}
    (read : Literal.read token = some (literal, rest)) : startsComparison token = false := by
  cases starts : startsComparison token with
  | false => rfl
  | true =>
    cases token with
    | nil => cases starts
    | cons first later =>
      have unread : Literal.read (first :: later) = none := by
        rcases startsComparison_cons starts with rfl | rfl | rfl
        · exact Literal.read_eq_none (by decide) (by decide) (by decide) (by decide) later
        · exact Literal.read_eq_none (by decide) (by decide) (by decide) (by decide) later
        · exact Literal.read_eq_none (by decide) (by decide) (by decide) (by decide) later
      rw [unread] at read
      cases read

theorem strip_of_readWhole {token : Token} (solid : Solid token) {number : Number}
    (read : Number.readWhole token = .ok (some number)) : Text.strip token = token := by
  rcases solid with opens | visible
  · cases token with
    | nil => cases opens
    | cons first rest =>
      have isQuote : isQuote first = true := opens
      rw [Number.readWhole_of_isQuote isQuote] at read
      cases read
  · exact Text.strip_eq_self_of_visible visible

theorem isOperand_of_number {token : Token} (solid : Solid token) {number : Number}
    (read : Number.readWhole token = .ok (some number)) :
    ∃ kind, Token.kind token = .ok kind ∧ kind.isOperand = true := by
  -- The kind of a token is taken from its prefix: the two readings agree where there is nothing to strip.
  have stripped := strip_of_readWhole solid read
  obtain ⟨literal, found, value⟩ := Number.read_of_readWhole read
  rw [stripped] at found
  have nonempty : token ≠ [] := by
    rintro rfl
    cases found
  have left : Text.stripLeft token = token := by rw [← stripped, Text.stripLeft_strip]
  have begins : ∃ found, Number.readPrefix token = .ok found := by
    unfold Number.readPrefix
    simp only [left, found]
    split
    · exact ⟨_, rfl⟩
    · exact ⟨_, value⟩
  obtain ⟨prefixed, begins⟩ := begins
  exact isOperand_of_readPrefix nonempty (isOperator_of_read found) (startsComparison_of_read found) begins

theorem exists_letter_of_isCellName {token : Token} (cell : Address.isCellName token = true) :
    ∃ first rest, token = first :: rest ∧ Text.isLetter first = true := by
  cases token with
  | nil => cases cell
  | cons first rest =>
    refine ⟨first, rest, rfl, ?_⟩
    cases letter : Text.isLetter first with
    | true => rfl
    | false => simp [Address.isCellName, Address.cellParts?, letter] at cell

theorem not_mem_operators_of_isLetter {char : Char} (letter : Text.isLetter char = true) : char ∉ operators :=
  Text.notMem_of_kind (by decide +kernel) letter

theorem isOperand_of_cell {token : Token} (cell : Address.isCellName token = true) :
    ∃ kind, Token.kind token = .ok kind ∧ kind.isOperand = true := by
  obtain ⟨first, rest, rfl, letter⟩ := exists_letter_of_isCellName cell
  have notOperator := not_mem_operators_of_isLetter letter
  have noOperator : isOperator (first :: rest) = false := by
    cases rest with
    | nil => simpa [isOperator, isOperatorChar] using notOperator
    | cons second later => rfl
  have noComparison : startsComparison (first :: rest) = false := by
    cases starts : startsComparison (first :: rest) with
    | false => rfl
    | true =>
      rcases startsComparison_cons starts with rfl | rfl | rfl <;> exact absurd (by decide) notOperator
  simp only [kind, not_sign noOperator, not_scale noOperator, noOperator, noComparison, cell, List.isEmpty_cons,
    ↓reduceIte, Bool.false_eq_true, Bool.or_self]
  split
  · exact ⟨_, rfl, rfl⟩
  · exact ⟨_, rfl, rfl⟩

theorem foldCalls_eq_self {tokens : List Token} (noGroup : ['('] ∉ tokens) : foldCalls tokens = tokens := by
  induction tokens using foldCalls.induct with
  | case1 => rw [foldCalls]
  | case2 first rest group after found ih =>
    have opens := open_mem_callGroup found
    unfold callGroup? at found
    split at found
    · have inside : ['('] ∈ rest := by
        rw [← takeGroup_append found]
        exact List.mem_append_left _ opens
      exact absurd (List.mem_cons_of_mem first inside) noGroup
    · cases found
  | case3 first rest none ih =>
    rw [foldCalls_single none, ih fun inside => noGroup (List.mem_cons_of_mem first inside)]

end Token

namespace Argument

theorem fits_of_isArithmeticOperand {token : Token} (solid : token.Solid) {index : Nat} (even : index % 2 = 0)
    (operand : isArithmeticOperand token = .ok true) : token.fits index = true := by
  have known : ∃ kind, Token.kind token = .ok kind ∧ kind.isOperand = true := by
    obtain ⟨found, read, onward⟩ := bind_eq_ok.mp operand
    cases found with
    | some number => exact Token.isOperand_of_number solid read
    | none =>
      have cell : Address.isCellName token = true := Except.ok.inj onward
      exact Token.isOperand_of_cell cell
  obtain ⟨kind, known, isOperand⟩ := known
  simp [Token.fits, known, even, isOperand]

theorem fits_of_isArithmeticOperator {token : Token} {index : Nat} (odd : index % 2 = 1)
    (operator : isArithmeticOperator token = true) : token.fits index = true := by
  refine (Expression.fits_odd odd).mpr ?_
  simp only [isArithmeticOperator, Bool.or_eq_true, beq_iff_eq] at operator
  rcases operator with ((rfl | rfl) | rfl) | rfl
  · exact ⟨.add, rfl⟩
  · exact ⟨.subtract, rfl⟩
  · exact ⟨.multiply, rfl⟩
  · exact ⟨.divide, rfl⟩

theorem alternates_cons {operand operator : Token} {rest : List Token}
    (ok : alternates (operand :: operator :: rest) = .ok true) :
    isArithmeticOperand operand = .ok true ∧ isArithmeticOperator operator = true ∧ alternates rest = .ok true := by
  obtain ⟨isOperand, first, onward⟩ := bind_eq_ok.mp ok
  cases isOperand with
  | false => cases onward
  | true =>
    cases second : isArithmeticOperator operator with
    | false =>
      simp only [second, ↓reduceIte, Bool.false_eq_true] at onward
      cases onward
    | true =>
      simp only [second, ↓reduceIte] at onward
      exact ⟨first, rfl, onward⟩

theorem stop_of_alternates {tokens : List Token} (solid : ∀ token ∈ tokens, token.Solid) {index : Nat}
    (even : index % 2 = 0) (ok : alternates tokens = .ok true) : Expression.stop? index tokens = none := by
  fun_induction alternates tokens generalizing index with
  | case1 => cases ok
  | case2 operand =>
    have fits := fits_of_isArithmeticOperand (solid operand (by simp)) even ok
    have odd : (index + 1) % 2 = 1 := by omega
    rw [Expression.stop?, if_pos fits, Expression.stop?, if_pos odd]
  | case3 operand operator rest ih =>
    obtain ⟨first, second, onward⟩ := alternates_cons ok
    have fits := fits_of_isArithmeticOperand (solid operand (by simp)) even first
    have fitsNext := fits_of_isArithmeticOperator (show (index + 1) % 2 = 1 by omega) second
    rw [Expression.stop?, if_pos fits, Expression.stop?, if_pos fitsNext]
    exact ih (fun token member => solid token (by simp [member])) (by omega) onward

theorem noGroup_of_alternates {tokens : List Token} (ok : alternates tokens = .ok true) : ['('] ∉ tokens := by
  have notOperand : isArithmeticOperand ['('] = .ok false := by decide +kernel
  fun_induction alternates tokens with
  | case1 => simp
  | case2 operand =>
    intro member
    rw [← List.mem_singleton.mp member, notOperand] at ok
    cases ok
  | case3 operand operator rest ih =>
    obtain ⟨first, second, onward⟩ := alternates_cons ok
    intro member
    simp only [List.mem_cons] at member
    rcases member with rfl | rfl | member
    · rw [notOperand] at first
      cases first
    · revert second
      decide
    · exact ih onward member

theorem exists_ofText_of_isArithmetic {text : Text} (ok : isArithmetic (Token.ofText text) = .ok true) :
    ∃ expression, Expression.ofText text = .ok expression := by
  unfold isArithmetic at ok
  split at ok
  · cases ok
  · have solid : ∀ token ∈ Token.ofText text, token.Solid := fun token member => Token.solid_of_mem_ofText member
    have goesOn : Expression.stop? 0 (Token.ofText text) = none := stop_of_alternates solid rfl ok
    rw [Expression.ofText, Token.foldCalls_eq_self (noGroup_of_alternates ok)]
    exact Expression.exists_ofTokens_iff.mpr (Expression.stop_eq_none.mp goesOn)

end Argument

end Worksheet
