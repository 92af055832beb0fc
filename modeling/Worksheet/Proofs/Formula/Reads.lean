import Mathlib.Data.List.Infix
import Worksheet.Formula.Evaluation
import Worksheet.Proofs.CellName
import Worksheet.Proofs.Formula.Argument
import Worksheet.Proofs.Formula.Token
import Worksheet.Proofs.Outcome

/-! What the evaluation of a formula reads of a sheet. The positions are those of the cells and ranges in its tree,
and each of them is named by a piece of the formula's text. -/

namespace Worksheet

/-- A piece of the text is the name of the position or of a range over it. -/
def Names (text : Text) (position : Position) : Prop :=
  ∃ piece, piece <:+: text ∧
    (Address.readCell piece = .ok (some position) ∨
      ∃ parts span, Address.spanParts? piece = some parts ∧
        Address.rangeSpan parts.firstLetters parts.firstDigits parts.lastLetters parts.lastDigits
          = .ok span ∧
        position ∈ span.positions)

theorem Names.mono {piece text : Text} {position : Position} (names : Names piece position)
    (inside : piece <:+: text) : Names text position := by
  obtain ⟨name, within, means⟩ := names
  exact ⟨name, within.trans inside, means⟩

def meanings (piece : Text) : List Position :=
  (match Address.readCell piece with
    | .ok (some position) => [position]
    | _ => []) ++
  (match Address.spanParts? piece with
    | some parts =>
      match Address.rangeSpan parts.firstLetters parts.firstDigits parts.lastLetters
          parts.lastDigits with
      | .ok span => span.positions
      | .error _ => []
    | none => [])

def namedPositions (text : Text) : List Position :=
  (text.tails.flatMap List.inits).flatMap meanings

theorem mem_meanings_of_spanParts {piece : Text} {parts : Address.SpanParts} {span : Span}
    {position : Position} (found : Address.spanParts? piece = some parts)
    (read : Address.rangeSpan parts.firstLetters parts.firstDigits parts.lastLetters parts.lastDigits
      = .ok span) (member : position ∈ span.positions) : position ∈ meanings piece := by
  apply List.mem_append_right
  rw [found]
  simp only [read]
  exact member

theorem Names.mem_namedPositions {text : Text} {position : Position} (names : Names text position) :
    position ∈ namedPositions text := by
  obtain ⟨piece, inside, means⟩ := names
  obtain ⟨suffix, start, after⟩ := List.infix_iff_prefix_suffix.mp inside
  refine List.mem_flatMap.mpr ⟨piece, List.mem_flatMap.mpr ⟨suffix, ?_, ?_⟩, ?_⟩
  · exact (List.mem_tails suffix text).mpr after
  · exact (List.mem_inits piece suffix).mpr start
  · rcases means with read | ⟨parts, span, found, read, member⟩
    · simp [meanings, read]
    · exact mem_meanings_of_spanParts found read member

def Agree (first second : View) (positions : List Position) : Prop :=
  ∀ position ∈ positions, first position = second position

theorem Agree.left {first second : View} {positions later : List Position}
    (agree : Agree first second (positions ++ later)) : Agree first second positions :=
  fun position member => agree position (List.mem_append_left _ member)

theorem Agree.right {first second : View} {positions later : List Position}
    (agree : Agree first second (positions ++ later)) : Agree first second later :=
  fun position member => agree position (List.mem_append_right _ member)

theorem mapM_congr {first second : View} {positions : List Position}
    (agree : Agree first second positions) : positions.mapM first = positions.mapM second := by
  induction positions with
  | nil => rfl
  | cons position rest ih =>
    have same : first position = second position := agree position (by simp)
    have later : Agree first second rest := fun position member => agree position (by simp [member])
    simp only [List.mapM_cons, same, ih later]

/-! ## Expressions -/

namespace Expression

def reads : Expression → List Position
  | cell token =>
    match Address.readCell token with
    | .ok (some position) => [position]
    | _ => []
  | binary left _ right => left.reads ++ right.reads
  | _ => []

theorem evaluate_congr {first second : View} {expression : Expression}
    (agree : Agree first second expression.reads) :
    expression.evaluate first = expression.evaluate second := by
  induction expression with
  | number token => rfl
  | quoted token => rfl
  | word token => rfl
  | cell token =>
    simp only [evaluate]
    cases read : Address.readCell token with
    | error failure => rfl
    | ok found =>
      cases found with
      | none => rfl
      | some position =>
        have same : first position = second position := agree position (by simp [reads, read])
        simp [bind, Except.bind, same]
  | binary left operator right ihLeft ihRight =>
    simp only [evaluate, ihLeft agree.left, ihRight agree.right]

def NamedIn (tokens : List Token) (position : Position) : Prop :=
  ∃ token ∈ tokens, Address.readCell token = .ok (some position)

theorem readCell_of_role {token : Token} {expression : Expression} {position : Position}
    (operand : role token = .ok (.operand expression)) (member : position ∈ expression.reads) :
    Address.readCell token = .ok (some position) := by
  unfold role at operand
  obtain ⟨kind, _, equal⟩ := bind_eq_ok.mp operand
  cases kind <;> cases equal
  · simp [reads] at member
  · simp only [reads] at member
    split at member
    · rename_i found read
      rw [List.mem_singleton.mp member]
      exact read
    · simp at member
  · simp [reads] at member
  · simp [reads] at member

theorem roleAt_eq_ok {token : Token} {found : Role} (ok : roleAt token = .ok found) :
    role token = .ok found := by
  unfold roleAt at ok
  split at ok
  · cases ok
    assumption
  · cases ok

theorem readOperand_eq_ok {index : Nat} {token : Token} {join : Expression → Partial} {read : Partial}
    (ok : readOperand index token join = .ok read) :
    ∃ operand, role token = .ok (.operand operand) ∧ read = join operand := by
  unfold readOperand at ok
  obtain ⟨found, known, equal⟩ := bind_eq_ok.mp ok
  cases found with
  | operand operand =>
    cases equal
    exact ⟨operand, roleAt_eq_ok known, rfl⟩
  | sign operator => cases equal
  | scale operator => cases equal
  | none => cases equal

theorem mem_reads_addTerm {read : Partial} {operator : Operator} {operand : Expression}
    {position : Position} :
    position ∈ (read.addTerm operator operand).close.reads ↔
      position ∈ read.close.reads ∨ position ∈ operand.reads := by
  simp [Partial.addTerm, Partial.close, reads]

theorem mem_reads_addFactor {read : Partial} {operator : Operator} {operand : Expression}
    {position : Position} :
    position ∈ (read.addFactor operator operand).close.reads ↔
      position ∈ read.close.reads ∨ position ∈ operand.reads := by
  obtain ⟨sum, term⟩ := read
  cases sum with
  | none => simp [Partial.addFactor, Partial.close, reads]
  | some waiting => simp [Partial.addFactor, Partial.close, reads, or_assoc]

theorem namedIn_of_readPairs {tokens : List Token} {read : Partial} {index : Nat}
    {expression : Expression} {position : Position}
    (ok : readPairs read index tokens = .ok expression) (member : position ∈ expression.reads) :
    position ∈ read.close.reads ∨ NamedIn tokens position := by
  induction read, index, tokens using readPairs.induct with
  | case1 read index =>
    cases ok
    exact Or.inl member
  | case2 read index token =>
    obtain ⟨_, _, equal⟩ := bind_eq_ok.mp ok
    cases equal
  | case3 read index token operand rest ih =>
    -- Both kinds of operator take the operand in; only the place in the tree differs.
    have onward (next : Partial) (later : readPairs next (index + 2) rest = .ok expression)
        (found : Expression) (known : role operand = .ok (.operand found))
        (taken : position ∈ next.close.reads ↔ position ∈ read.close.reads ∨ position ∈ found.reads) :
        position ∈ read.close.reads ∨ NamedIn (token :: operand :: rest) position := by
      rcases ih next later with before | ⟨name, within, means⟩
      · rcases taken.mp before with before | here
        · exact Or.inl before
        · exact Or.inr ⟨operand, by simp, readCell_of_role known here⟩
      · exact Or.inr ⟨name, by simp [within], means⟩
    rw [readPairs] at ok
    obtain ⟨kind, _, read⟩ := bind_eq_ok.mp ok
    cases kind with
    | sign operator =>
      obtain ⟨next, reading, later⟩ := bind_eq_ok.mp read
      obtain ⟨found, known, rfl⟩ := readOperand_eq_ok reading
      exact onward _ later found known mem_reads_addTerm
    | scale operator =>
      obtain ⟨next, reading, later⟩ := bind_eq_ok.mp read
      obtain ⟨found, known, rfl⟩ := readOperand_eq_ok reading
      exact onward _ later found known mem_reads_addFactor
    | operand _ => cases read
    | none => cases read

theorem namedIn_of_ofTokens {tokens : List Token} {expression : Expression} {position : Position}
    (ok : ofTokens tokens = .ok expression) (member : position ∈ expression.reads) :
    NamedIn tokens position := by
  cases tokens with
  | nil => cases ok
  | cons token rest =>
    obtain ⟨next, reading, later⟩ := bind_eq_ok.mp ok
    obtain ⟨found, known, rfl⟩ := readOperand_eq_ok reading
    rcases namedIn_of_readPairs later member with here | ⟨name, within, means⟩
    · exact ⟨token, by simp, readCell_of_role known here⟩
    · exact ⟨name, by simp [within], means⟩

theorem names_of_mem_reads {text : Text} {expression : Expression} {position : Position}
    (ok : ofText text = .ok expression) (member : position ∈ expression.reads) : Names text position := by
  obtain ⟨token, within, means⟩ := namedIn_of_ofTokens ok member
  refine ⟨token, ?_, Or.inl means⟩
  rcases Token.mem_or_open_mem_of_mem_foldCalls within with original | parenthesis
  · exact Token.isInfix_of_mem_ofText original
  · unfold Address.readCell at means
    split at means
    · rename_i letters digits parts
      have inName := Address.isNameChar_of_cellParts parts '(' parenthesis
      exact absurd inName (by decide +kernel)
    · cases means

end Expression

/-! ## Arguments -/

namespace Argument

mutual

def reads : Argument → List Position
  | range span => span.positions
  | cell position => [position]
  | comparison left _ right => left.reads ++ right.reads
  | call _ _ arguments => readsAll arguments
  | formula _ (.ok expression) => expression.reads
  | formula _ (.error _) => []
  | constant _ => []
  | arithmetic expression => expression.reads
  | invalid _ => []

def readsAll : List Argument → List Position
  | [] => []
  | argument :: rest => argument.reads ++ readsAll rest

end

mutual

theorem resolve_congr (setting : Setting) {first second : View} (depth : Int) (keepsErrors : Bool)
    (argument : Argument) (agree : Agree first second argument.reads) :
    resolve setting first depth keepsErrors argument = resolve setting second depth keepsErrors argument := by
  cases argument with
  | range span =>
    have same : span.positions.mapM first = span.positions.mapM second := mapM_congr agree
    simp only [resolve, same]
  | cell position => simp only [resolve, agree position (by simp [reads])]
  | comparison left relation right =>
    have sameLeft := resolve_congr setting depth keepsErrors left agree.left
    have sameRight := resolve_congr setting depth keepsErrors right agree.right
    simp only [resolve, sameLeft, sameRight]
  | call source name arguments =>
    have same (keeps : Bool) := resolveAll_congr setting (depth + 1) keeps arguments agree
    simp only [resolve, same]
  | formula source expression =>
    cases expression with
    | error failure => rfl
    | ok found =>
      have same : found.evaluate first = found.evaluate second := Expression.evaluate_congr agree
      simp only [resolve, Formula.evaluateExpression, bind, Except.bind, same]
  | constant value => rfl
  | arithmetic expression =>
    have same : expression.evaluate first = expression.evaluate second :=
      Expression.evaluate_congr agree
    simp only [resolve, same]
  | invalid failure => rfl

theorem resolveAll_congr (setting : Setting) {first second : View} (depth : Int) (keepsErrors : Bool)
    (arguments : List Argument) (agree : Agree first second (readsAll arguments)) :
    resolveAll setting first depth keepsErrors arguments
      = resolveAll setting second depth keepsErrors arguments := by
  cases arguments with
  | nil => rfl
  | cons argument rest =>
    have same := resolve_congr setting depth keepsErrors argument agree.left
    have later := resolveAll_congr setting depth keepsErrors rest agree.right
    simp only [resolveAll, same, later]

end

theorem names_of_mem_reads_ofSpanParts {text : Text} {parts : Address.SpanParts} {position : Position}
    (found : Address.spanParts? text = some parts) (member : position ∈ (ofSpanParts parts).reads) :
    Names text position := by
  unfold ofSpanParts at member
  cases read : Address.rangeSpan parts.firstLetters parts.firstDigits parts.lastLetters
      parts.lastDigits with
  | error failure =>
    rw [read] at member
    simp [ofResult, reads] at member
  | ok span =>
    rw [read] at member
    exact ⟨text, List.infix_refl _, Or.inr ⟨parts, span, found, read, member⟩⟩

theorem names_of_mem_reads_ofParts {text letters digits : Text} {position : Position}
    (found : Address.cellParts? text = some (letters, digits))
    (member : position ∈ (ofResult cell (Address.ofParts letters digits)).reads) :
    Names text position := by
  cases read : Address.ofParts letters digits with
  | error failure => simp [read, ofResult, reads] at member
  | ok here =>
    simp only [read, ofResult, reads, List.mem_singleton] at member
    subst member
    exact ⟨text, List.infix_refl _, Or.inl (by simp [Address.readCell, found, read, Except.map])⟩

theorem names_of_mem_reads_ofPlain {text : Text} {position : Position}
    (member : position ∈ (ofResult id (ofPlain text)).reads) : Names text position := by
  cases plain : ofPlain text with
  | error failure => simp [plain, ofResult, reads] at member
  | ok argument =>
    simp only [plain, ofResult, id_eq] at member
    unfold ofPlain at plain
    obtain ⟨number, _, plain⟩ := bind_eq_ok.mp plain
    cases number with
    | some number =>
      cases plain
      simp [reads] at member
    | none =>
      simp only at plain
      split at plain
      · cases plain
        simp [reads] at member
      · obtain ⟨arithmetic, _, plain⟩ := bind_eq_ok.mp plain
        split at plain
        · obtain ⟨expression, read, plain⟩ := bind_eq_ok.mp plain
          cases plain
          exact Expression.names_of_mem_reads read member
        · cases plain
          simp [reads] at member

theorem mem_readsAll {arguments : List Argument} {position : Position} :
    position ∈ readsAll arguments ↔ ∃ argument ∈ arguments, position ∈ argument.reads := by
  induction arguments with
  | nil => simp [readsAll]
  | cons argument rest ih => simp [readsAll, ih]

theorem names_of_mem_reads {text : Text} {position : Position}
    (member : position ∈ (ofTrimmed text).reads) : Names text position := by
  induction text using ofTrimmed_induction with
  | range text parts found => exact names_of_mem_reads_ofSpanParts found member
  | cell text letters digits found => exact names_of_mem_reads_ofParts found member
  | comparison text found equal left right =>
    have inside := Comparison.isInfix_of_find equal
    rcases List.mem_append.mp member with member | member
    · exact (left member).mono ((Text.strip_isInfix _).trans inside.1)
    · exact (right member).mono ((Text.strip_isInfix _).trans inside.2)
  | call text name inner found pieces =>
    obtain ⟨argument, written, member⟩ := mem_readsAll.mp member
    obtain ⟨piece, among, rfl⟩ := List.mem_map.mp written
    have inside := (Scan.isInfix_of_mem_splitArguments among).trans (isInfix_of_callParts found)
    exact (pieces piece among member).mono ((Text.strip_isInfix _).trans inside)
  | formula text starts none =>
    cases read : Expression.ofText text with
    | error failure => simp [read, reads] at member
    | ok expression =>
      simp only [read, reads] at member
      exact Expression.names_of_mem_reads read member
  | plain text => exact names_of_mem_reads_ofPlain member

end Argument

/-! ## Formulas -/

namespace Formula

def reads : Formula → List Position
  | call _ arguments => Argument.readsAll arguments
  | expression (.ok parsed) => parsed.reads
  | _ => []

theorem answer_congr (setting : Setting) {first second : View} (depth : Int) (source : Text)
    (formula : Formula) (agree : Agree first second formula.reads) :
    formula.answer setting first depth source = formula.answer setting second depth source := by
  cases formula with
  | plain => rfl
  | blank => rfl
  | call name arguments =>
    have same (keeps : Bool) := Argument.resolveAll_congr setting depth keeps arguments agree
    simp only [answer, same]
  | expression parsed =>
    cases parsed with
    | error failure => rfl
    | ok found =>
      have same : found.evaluate first = found.evaluate second := Expression.evaluate_congr agree
      simp only [answer, evaluateExpression, bind, Except.bind, same]

/-- What a formula reads is named by pieces of its text. -/
theorem names_of_mem_reads {source : Text} {position : Position}
    (member : position ∈ (ofText source).reads) : Names source position := by
  unfold ofText at member
  split at member
  · rename_i rest
    have body : Text.strip rest <:+: '=' :: rest := List.infix_cons (Text.strip_isInfix rest)
    simp only at member
    split at member
    · rename_i name inner found
      obtain ⟨argument, written, member⟩ := Argument.mem_readsAll.mp member
      obtain ⟨piece, among, rfl⟩ := List.mem_map.mp written
      have inside := (Scan.isInfix_of_mem_splitArguments among).trans (isInfix_of_callParts found)
      exact (Argument.names_of_mem_reads member).mono
        ((Text.strip_isInfix _).trans (inside.trans body))
    · split at member
      · simp [reads] at member
      · cases read : Expression.ofText (Text.strip rest) with
        | error failure => simp [read, reads] at member
        | ok parsed =>
          simp only [read, reads] at member
          exact (Expression.names_of_mem_reads read member).mono body
  · simp [reads] at member

end Formula

theorem evaluateAt_congr (setting : Setting) {first second : View} (depth : Int) (source : Text)
    (agree : Agree first second (Formula.ofText source).reads) :
    evaluateAt setting first depth source = evaluateAt setting second depth source :=
  Formula.answer_congr setting depth source _ agree

end Worksheet
