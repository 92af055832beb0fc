import Worksheet.Proofs.Formula.Reads

/-! The language of expressions and the trees of its texts. The tokens of an expression are a sum of products of
operands; they are one exactly when operands and operators alternate, and where they do not, the reading stops at the
first token that is out of place. -/

namespace Worksheet

namespace Token

def Kind.isOperand : Kind → Bool
  | .number => true
  | .quoted => true
  | .cell => true
  | .word => true
  | _ => false

def Kind.isOperator : Kind → Bool
  | .sign => true
  | .scale => true
  | _ => false

def fits (index : Nat) (token : Token) : Bool :=
  match kind token with
  | .ok found => if index % 2 = 0 then found.isOperand else found.isOperator
  | .error _ => false

def beginsTooLong (token : Token) : Bool :=
  match Literal.read (Text.stripLeft token) with
  | some (literal, _) =>
    literal.fraction.isNone && literal.exponent.isNone && decide (Text.digitLimit < literal.whole.length)
  | none => false

theorem readPrefix_eq_ok {token : Token} (short : beginsTooLong token = false) :
    ∃ found, Number.readPrefix token = .ok found := by
  unfold Number.readPrefix
  simp only
  split
  next => exact ⟨_, rfl⟩
  next =>
    split
    next => exact ⟨none, rfl⟩
    next literal rest read =>
      obtain ⟨negative, whole, fraction, exponent⟩ := literal
      simp only [beginsTooLong, read, Bool.and_eq_false_iff] at short
      cases fraction with
      | some places => exact ⟨_, rfl⟩
      | none =>
        cases exponent with
        | some power => exact ⟨_, rfl⟩
        | none =>
          have few : ¬whole.length > Text.digitLimit := by simpa using short
          exact ⟨_, by simp only [Literal.value, Text.readNat, if_neg few]; rfl⟩

theorem kind_eq_ok {token : Token} (nonempty : token ≠ []) (short : beginsTooLong token = false) :
    ∃ found, kind token = .ok found := by
  have notEmpty : token.isEmpty = false := by simpa using nonempty
  obtain ⟨found, read⟩ := readPrefix_eq_ok short
  simp only [kind, notEmpty, read, Bool.false_eq_true, ↓reduceIte]
  split
  · exact ⟨_, rfl⟩
  split
  · exact ⟨_, rfl⟩
  split
  · exact ⟨_, rfl⟩
  split
  · exact ⟨_, rfl⟩
  split
  · exact ⟨_, rfl⟩
  cases found with
  | none => exact ⟨.word, rfl⟩
  | some number => exact ⟨.number, rfl⟩

theorem eq_of_kind {token : Token} {found : Kind} (known : kind token = .ok found) :
    (found = .sign → token = ['+'] ∨ token = ['-']) ∧ (found = .scale → token = ['*'] ∨ token = ['/']) := by
  unfold kind at known
  split at known
  next sign =>
    cases known
    exact ⟨fun _ => sign, nofun⟩
  split at known
  next scale =>
    cases known
    exact ⟨nofun, fun _ => scale⟩
  split at known
  · cases known
  split at known
  · cases known
    exact ⟨nofun, nofun⟩
  split at known
  · cases known
    exact ⟨nofun, nofun⟩
  split at known
  · cases known
    exact ⟨nofun, nofun⟩
  obtain ⟨number, _, read⟩ := bind_eq_ok.mp known
  cases number with
  | none =>
    cases read
    exact ⟨nofun, nofun⟩
  | some number =>
    cases read
    exact ⟨nofun, nofun⟩

end Token

namespace Operator

def isSign : Operator → Bool
  | add => true
  | subtract => true
  | _ => false

def isScale : Operator → Bool
  | multiply => true
  | divide => true
  | _ => false

end Operator

namespace Expression

/-! ## Trees -/

/-- A token and the operand that it is by its kind. -/
inductive Operand : Token → Expression → Prop where
  | number {token : Token} : Token.kind token = .ok .number → Operand token (.number token)
  | quoted {token : Token} : Token.kind token = .ok .quoted → Operand token (.quoted token)
  | cell {token : Token} : Token.kind token = .ok .cell → Operand token (.cell token)
  | word {token : Token} : Token.kind token = .ok .word → Operand token (.word token)

/-- The tokens of a product and its tree, which grows to the left. -/
inductive Product : List Token → Expression → Prop where
  | operand {token : Token} {expression : Expression} :
      Operand token expression → Product [token] expression
  | scale {tokens : List Token} {token : Token} {left right : Expression} {operator : Operator} :
      Product tokens left → operator.isScale = true → Operand token right →
        Product (tokens ++ [operator.text, token]) (.binary left operator right)

inductive Sum : List Token → Expression → Prop where
  | product {tokens : List Token} {expression : Expression} :
      Product tokens expression → Sum tokens expression
  | sign {tokens later : List Token} {left right : Expression} {operator : Operator} :
      Sum tokens left → operator.isSign = true → Product later right →
        Sum (tokens ++ operator.text :: later) (.binary left operator right)

def tokens : Expression → List Token
  | number token => [token]
  | quoted token => [token]
  | cell token => [token]
  | word token => [token]
  | binary left operator right => left.tokens ++ operator.text :: right.tokens

theorem Operand.tokens_eq {token : Token} {expression : Expression} (operand : Operand token expression) :
    expression.tokens = [token] := by
  cases operand with
  | number _ => rfl
  | quoted _ => rfl
  | cell _ => rfl
  | word _ => rfl

theorem Product.tokens_eq {written : List Token} {expression : Expression}
    (product : Product written expression) : expression.tokens = written := by
  induction product with
  | operand operand => exact operand.tokens_eq
  | scale _ _ operand ih => rw [tokens, ih, operand.tokens_eq]

theorem Sum.tokens_eq {written : List Token} {expression : Expression} (sum : Sum written expression) :
    expression.tokens = written := by
  induction sum with
  | product product => exact product.tokens_eq
  | sign _ _ product ih => rw [tokens, ih, product.tokens_eq]

/-! ## What a token is read as -/

theorem roleAt_of_operand {token : Token} {expression : Expression} (operand : Operand token expression) :
    roleAt token = .ok (.operand expression) := by
  cases operand with
  | number kind => simp [roleAt, role, kind, bind, Except.bind, pure, Except.pure]
  | quoted kind => simp [roleAt, role, kind, bind, Except.bind, pure, Except.pure]
  | cell kind => simp [roleAt, role, kind, bind, Except.bind, pure, Except.pure]
  | word kind => simp [roleAt, role, kind, bind, Except.bind, pure, Except.pure]

theorem roleAt_of_isSign {operator : Operator} (sign : operator.isSign = true) :
    roleAt operator.text = .ok (.sign operator) := by
  cases operator with
  | add => rfl
  | subtract => rfl
  | multiply => cases sign
  | divide => cases sign

theorem roleAt_of_isScale {operator : Operator} (scale : operator.isScale = true) :
    roleAt operator.text = .ok (.scale operator) := by
  cases operator with
  | multiply => rfl
  | divide => rfl
  | add => cases scale
  | subtract => cases scale

theorem role_eq_ok {token : Token} {found : Role} (read : role token = .ok found) :
    (∃ expression, found = .operand expression ∧ Operand token expression) ∨
    (∃ operator : Operator, found = .sign operator ∧ operator.isSign = true ∧ token = operator.text) ∨
    (∃ operator : Operator, found = .scale operator ∧ operator.isScale = true ∧ token = operator.text) ∨
    (found = .none ∧ Token.kind token = .ok .other) := by
  unfold role at read
  obtain ⟨kind, known, equal⟩ := bind_eq_ok.mp read
  cases kind with
  | sign =>
    cases equal
    refine Or.inr (Or.inl ?_)
    rcases (Token.eq_of_kind known).1 rfl with rfl | rfl
    · exact ⟨.add, rfl, rfl, rfl⟩
    · exact ⟨.subtract, rfl, rfl, rfl⟩
  | scale =>
    cases equal
    refine Or.inr (Or.inr (Or.inl ?_))
    rcases (Token.eq_of_kind known).2 rfl with rfl | rfl
    · exact ⟨.multiply, rfl, rfl, rfl⟩
    · exact ⟨.divide, rfl, rfl, rfl⟩
  | number =>
    cases equal
    exact Or.inl ⟨_, rfl, .number known⟩
  | quoted =>
    cases equal
    exact Or.inl ⟨_, rfl, .quoted known⟩
  | cell =>
    cases equal
    exact Or.inl ⟨_, rfl, .cell known⟩
  | word =>
    cases equal
    exact Or.inl ⟨_, rfl, .word known⟩
  | other =>
    cases equal
    exact Or.inr (Or.inr (Or.inr ⟨rfl, known⟩))

/-! ## The texts of the trees are read as these trees -/

theorem readPairs_sign {operator : Operator} {token : Token} {expression : Expression}
    (sign : operator.isSign = true) (operand : Operand token expression) (read : Partial) (index : Nat)
    (rest : List Token) :
    readPairs read index (operator.text :: token :: rest)
      = readPairs (read.addTerm operator expression) (index + 2) rest := by
  rw [readPairs, roleAt_of_isSign sign]
  simp [readOperand, roleAt_of_operand operand, bind, Except.bind, pure, Except.pure]

theorem readPairs_scale {operator : Operator} {token : Token} {expression : Expression}
    (scale : operator.isScale = true) (operand : Operand token expression) (read : Partial) (index : Nat)
    (rest : List Token) :
    readPairs read index (operator.text :: token :: rest)
      = readPairs (read.addFactor operator expression) (index + 2) rest := by
  rw [readPairs, roleAt_of_isScale scale]
  simp [readOperand, roleAt_of_operand operand, bind, Except.bind, pure, Except.pure]

theorem readPairs_product {operator : Operator} {later : List Token} {right : Expression}
    (sign : operator.isSign = true) (product : Product later right) (read : Partial) (index : Nat)
    (rest : List Token) :
    readPairs read index (operator.text :: (later ++ rest))
      = readPairs ⟨some (read.close, operator), right⟩ (index + 1 + later.length) rest := by
  induction product generalizing rest with
  | operand operand => exact readPairs_sign sign operand read index rest
  | scale _ scale operand ih =>
    rw [List.append_assoc, ih, List.cons_append, List.cons_append, List.nil_append,
      readPairs_scale scale operand]
    simp [Partial.addFactor, Nat.add_assoc]

theorem ofTokens_product {tokens : List Token} {expression : Expression}
    (product : Product tokens expression) (rest : List Token) :
    ofTokens (tokens ++ rest) = readPairs ⟨none, expression⟩ tokens.length rest := by
  induction product generalizing rest with
  | operand operand =>
    simp [ofTokens, readOperand, roleAt_of_operand operand, bind, Except.bind, pure, Except.pure]
  | scale _ scale operand ih =>
    rw [List.append_assoc, ih, List.cons_append, List.cons_append, List.nil_append,
      readPairs_scale scale operand]
    simp [Partial.addFactor]

theorem ofTokens_sum {tokens : List Token} {expression : Expression} (sum : Sum tokens expression) :
    ∃ read : Partial, read.close = expression ∧
      ∀ rest, ofTokens (tokens ++ rest) = readPairs read tokens.length rest := by
  induction sum with
  | product product => exact ⟨⟨none, _⟩, rfl, ofTokens_product product⟩
  | sign _ sign product ih =>
    obtain ⟨read, rfl, onward⟩ := ih
    refine ⟨⟨some (read.close, _), _⟩, rfl, fun rest => ?_⟩
    rw [List.append_assoc, onward, List.cons_append, readPairs_product sign product]
    simp [Nat.add_assoc, Nat.add_comm 1]

/-! ## What is read is such a tree -/

inductive Partial.Holds : List Token → Partial → Prop where
  | product {tokens : List Token} {term : Expression} : Product tokens term → Holds tokens ⟨none, term⟩
  | sign {tokens later : List Token} {sum term : Expression} {operator : Operator} :
      Sum tokens sum → operator.isSign = true → Product later term →
        Holds (tokens ++ operator.text :: later) ⟨some (sum, operator), term⟩

theorem Partial.Holds.close {tokens : List Token} {read : Partial} (holds : read.Holds tokens) :
    Sum tokens read.close := by
  cases holds with
  | product product => exact .product product
  | sign sum sign product => exact .sign sum sign product

theorem Partial.Holds.addTerm {tokens : List Token} {read : Partial} {operator : Operator} {token : Token}
    {expression : Expression} (holds : read.Holds tokens) (sign : operator.isSign = true)
    (operand : Operand token expression) :
    (read.addTerm operator expression).Holds (tokens ++ [operator.text, token]) :=
  .sign holds.close sign (.operand operand)

theorem Partial.Holds.addFactor {tokens : List Token} {read : Partial} {operator : Operator}
    {token : Token} {expression : Expression} (holds : read.Holds tokens) (scale : operator.isScale = true)
    (operand : Operand token expression) :
    (read.addFactor operator expression).Holds (tokens ++ [operator.text, token]) := by
  cases holds with
  | product product => exact .product (.scale product scale operand)
  | sign sum sign product =>
    rw [List.append_assoc, List.cons_append]
    exact .sign sum sign (.scale product scale operand)

theorem operand_of_readOperand {index : Nat} {token : Token} {join : Expression → Partial} {read : Partial}
    (ok : readOperand index token join = .ok read) :
    ∃ expression, Operand token expression ∧ read = join expression := by
  obtain ⟨expression, known, equal⟩ := readOperand_eq_ok ok
  rcases role_eq_ok known with ⟨_, same, operand⟩ | ⟨_, same, _⟩ | ⟨_, same, _⟩ | ⟨same, _⟩
  · cases same
    exact ⟨expression, operand, equal⟩
  · cases same
  · cases same
  · cases same

theorem sum_of_readPairs {before tokens : List Token} {read : Partial} {index : Nat}
    {expression : Expression} (holds : read.Holds before)
    (ok : readPairs read index tokens = .ok expression) : Sum (before ++ tokens) expression := by
  induction read, index, tokens using readPairs.induct generalizing before with
  | case1 read index =>
    cases ok
    simpa using holds.close
  | case2 read index token =>
    obtain ⟨_, _, equal⟩ := bind_eq_ok.mp ok
    cases equal
  | case3 read index token operand rest ih =>
    rw [readPairs] at ok
    obtain ⟨found, known, onward⟩ := bind_eq_ok.mp ok
    have assembled : before ++ token :: operand :: rest = before ++ [token, operand] ++ rest := by simp
    rw [assembled]
    rcases role_eq_ok (roleAt_eq_ok known) with
      ⟨_, rfl, _⟩ | ⟨operator, rfl, sign, rfl⟩ | ⟨operator, rfl, scale, rfl⟩ | ⟨rfl, _⟩
    · cases onward
    · obtain ⟨next, reading, later⟩ := bind_eq_ok.mp onward
      obtain ⟨right, taken, rfl⟩ := operand_of_readOperand reading
      exact ih _ (holds.addTerm sign taken) later
    · obtain ⟨next, reading, later⟩ := bind_eq_ok.mp onward
      obtain ⟨right, taken, rfl⟩ := operand_of_readOperand reading
      exact ih _ (holds.addFactor scale taken) later
    · cases onward

/-- The trees of the grammar are those that are read. -/
theorem ofTokens_eq_ok {tokens : List Token} {expression : Expression} :
    ofTokens tokens = .ok expression ↔ Sum tokens expression := by
  constructor
  · intro ok
    cases tokens with
    | nil => cases ok
    | cons token rest =>
      obtain ⟨next, reading, later⟩ := bind_eq_ok.mp ok
      obtain ⟨first, taken, rfl⟩ := operand_of_readOperand reading
      exact sum_of_readPairs (.product (.operand taken)) later
  · intro sum
    obtain ⟨read, rfl, onward⟩ := ofTokens_sum sum
    have complete := onward []
    rwa [List.append_nil] at complete

/-! ## The first token out of place -/

theorem fits_even {index : Nat} (even : index % 2 = 0) {token : Token} :
    token.fits index = true ↔ ∃ expression, Operand token expression := by
  constructor
  · intro fits
    unfold Token.fits at fits
    split at fits
    next kind known =>
      rw [if_pos even] at fits
      cases kind with
      | number => exact ⟨_, .number known⟩
      | quoted => exact ⟨_, .quoted known⟩
      | cell => exact ⟨_, .cell known⟩
      | word => exact ⟨_, .word known⟩
      | sign => cases fits
      | scale => cases fits
      | other => cases fits
    next => cases fits
  · rintro ⟨expression, operand⟩
    cases operand with
    | number known => simp [Token.fits, known, even, Token.Kind.isOperand]
    | quoted known => simp [Token.fits, known, even, Token.Kind.isOperand]
    | cell known => simp [Token.fits, known, even, Token.Kind.isOperand]
    | word known => simp [Token.fits, known, even, Token.Kind.isOperand]

theorem fits_odd {index : Nat} (odd : index % 2 = 1) {token : Token} :
    token.fits index = true ↔ ∃ operator : Operator, token = operator.text := by
  have notEven : ¬index % 2 = 0 := by omega
  constructor
  · intro fits
    unfold Token.fits at fits
    split at fits
    next kind known =>
      rw [if_neg notEven] at fits
      cases kind with
      | sign =>
        rcases (Token.eq_of_kind known).1 rfl with rfl | rfl
        · exact ⟨.add, rfl⟩
        · exact ⟨.subtract, rfl⟩
      | scale =>
        rcases (Token.eq_of_kind known).2 rfl with rfl | rfl
        · exact ⟨.multiply, rfl⟩
        · exact ⟨.divide, rfl⟩
      | number => cases fits
      | quoted => cases fits
      | cell => cases fits
      | word => cases fits
      | other => cases fits
    next => cases fits
  · rintro ⟨operator, rfl⟩
    cases operator with
    | add => exact if_neg notEven
    | subtract => exact if_neg notEven
    | multiply => exact if_neg notEven
    | divide => exact if_neg notEven

theorem isSign_or_isScale (operator : Operator) : operator.isSign = true ∨ operator.isScale = true := by
  cases operator with
  | add => exact Or.inl rfl
  | subtract => exact Or.inl rfl
  | multiply => exact Or.inr rfl
  | divide => exact Or.inr rfl

theorem role_of_kind {token : Token} {kind : Token.Kind} (known : Token.kind token = .ok kind) :
    ∃ found, role token = .ok found := by
  unfold role
  rw [known]
  cases kind with
  | sign => exact ⟨_, rfl⟩
  | scale => exact ⟨_, rfl⟩
  | other => exact ⟨_, rfl⟩
  | quoted => exact ⟨_, rfl⟩
  | cell => exact ⟨_, rfl⟩
  | number => exact ⟨_, rfl⟩
  | word => exact ⟨_, rfl⟩

theorem roleAt_eq {token : Token} {found : Role} (read : role token = .ok found) :
    roleAt token = .ok found := by
  simp [roleAt, read]

theorem readOperand_misplaced {index : Nat} (even : index % 2 = 0) {token : Token}
    (known : ∃ kind, Token.kind token = .ok kind) (misplaced : ¬token.fits index = true)
    (join : Expression → Partial) :
    readOperand index token join = .error (.syntaxError (some index)) := by
  obtain ⟨kind, known⟩ := known
  obtain ⟨found, read⟩ := role_of_kind known
  have noOperand : ∀ expression, ¬Operand token expression := by
    intro expression operand
    exact misplaced ((fits_even even).mpr ⟨expression, operand⟩)
  simp only [readOperand, roleAt_eq read, bind, Except.bind]
  rcases role_eq_ok read with ⟨expression, rfl, operand⟩ | ⟨_, rfl, _⟩ | ⟨_, rfl, _⟩ | ⟨rfl, _⟩
  · exact absurd operand (noOperand expression)
  · rfl
  · rfl
  · rfl

theorem readPairs_misplaced {index : Nat} (odd : index % 2 = 1) {token : Token}
    (known : ∃ kind, Token.kind token = .ok kind) (misplaced : ¬token.fits index = true) (read : Partial)
    (rest : List Token) :
    readPairs read index (token :: rest) = .error (.syntaxError (some index)) := by
  obtain ⟨kind, known⟩ := known
  obtain ⟨found, role⟩ := role_of_kind known
  have noOperator : ∀ operator : Operator, token ≠ operator.text := by
    intro operator equal
    exact misplaced ((fits_odd odd).mpr ⟨operator, equal⟩)
  cases rest with
  | nil => simp only [readPairs, roleAt_eq role, bind, Except.bind]; rfl
  | cons operand rest =>
    simp only [readPairs, roleAt_eq role, bind, Except.bind]
    rcases role_eq_ok role with ⟨_, rfl, _⟩ | ⟨operator, rfl, _, same⟩ | ⟨operator, rfl, _, same⟩ | ⟨rfl, _⟩
    · rfl
    · exact absurd same (noOperator operator)
    · exact absurd same (noOperator operator)
    · rfl

/-- Where the reading of tokens from the given index on stops, if they do not complete an expression: at the
first one out of place, or else at the last one, since then an operand is missing. -/
def stop? (index : Nat) : List Token → Option Nat
  | [] => if index % 2 = 1 then none else some (index - 1)
  | token :: rest => if token.fits index then stop? (index + 1) rest else some index

/-- Operands and operators take turns, from an operand to an operand. -/
def Alternates (tokens : List Token) : Prop :=
  tokens.length % 2 = 1 ∧ ∀ index (inside : index < tokens.length), tokens[index].fits index = true

theorem stop_of_misplaced {index offset : Nat} {tokens : List Token} (inside : offset < tokens.length)
    (misplaced : ¬tokens[offset].fits (index + offset) = true)
    (fitting : ∀ earlier (before : earlier < offset), tokens[earlier].fits (index + earlier) = true) :
    stop? index tokens = some (index + offset) := by
  induction tokens generalizing index offset with
  | nil => cases inside
  | cons token rest ih =>
    rw [stop?]
    cases offset with
    | zero => exact if_neg misplaced
    | succ offset =>
      have first : token.fits index = true := fitting 0 (by omega)
      have shifted (earlier : Nat) : index + (earlier + 1) = index + 1 + earlier := by omega
      rw [shifted] at misplaced
      rw [if_pos first, shifted offset]
      refine ih (by simpa using inside) misplaced fun earlier before => ?_
      have later := fitting (earlier + 1) (by omega)
      rwa [shifted] at later

theorem stop_of_fitting {index : Nat} {tokens : List Token}
    (fitting : ∀ offset (inside : offset < tokens.length), tokens[offset].fits (index + offset) = true) :
    stop? index tokens =
      if (index + tokens.length) % 2 = 1 then none else some (index + tokens.length - 1) := by
  induction tokens generalizing index with
  | nil => rfl
  | cons token rest ih =>
    have first : token.fits index = true := fitting 0 (by simp)
    have shifted (offset : Nat) : index + (offset + 1) = index + 1 + offset := by omega
    rw [stop?, if_pos first, List.length_cons, shifted rest.length]
    refine ih fun offset inside => ?_
    have later := fitting (offset + 1) (by simpa using inside)
    rwa [shifted] at later

theorem fitting_of_stop {index : Nat} {tokens : List Token} (goesOn : stop? index tokens = none) :
    ∀ offset (inside : offset < tokens.length), tokens[offset].fits (index + offset) = true := by
  induction tokens generalizing index with
  | nil => exact fun offset inside => nomatch inside
  | cons token rest ih =>
    rw [stop?] at goesOn
    split at goesOn
    next first =>
      intro offset inside
      cases offset with
      | zero => exact first
      | succ offset =>
        have later := ih goesOn offset (by simpa using inside)
        rwa [show index + 1 + offset = index + (offset + 1) by omega] at later
    next => cases goesOn

theorem stop_eq_none {tokens : List Token} : stop? 0 tokens = none ↔ Alternates tokens := by
  constructor
  · intro goesOn
    have fitting := fitting_of_stop goesOn
    have counted := stop_of_fitting fitting
    rw [goesOn] at counted
    split at counted
    next odd => exact ⟨by simpa using odd, fun index inside => by simpa using fitting index inside⟩
    next => cases counted
  · rintro ⟨odd, fitting⟩
    rw [stop_of_fitting fun offset inside => by simpa using fitting offset inside]
    exact if_pos (by simpa using odd)

theorem readPairs_outcome {index : Nat} (odd : index % 2 = 1) (read : Partial) {tokens : List Token}
    (known : ∀ token ∈ tokens, ∃ kind, Token.kind token = .ok kind) :
    match stop? index tokens with
    | some place => readPairs read index tokens = .error (.syntaxError (some place))
    | none => ∃ expression, readPairs read index tokens = .ok expression := by
  induction read, index, tokens using readPairs.induct with
  | case1 read index =>
    rw [stop?, if_pos odd]
    exact ⟨_, rfl⟩
  | case2 read index token =>
    have even : ¬(index + 1) % 2 = 1 := by omega
    have stops : stop? index [token] = some index := by
      rw [stop?, stop?, if_neg even]
      exact ite_self _
    obtain ⟨kind, known⟩ := known token (by simp)
    obtain ⟨found, role⟩ := role_of_kind known
    rw [stops]
    simp only [readPairs, roleAt_eq role, bind, Except.bind]
    rfl
  | case3 read index token operand rest ih =>
    have even : (index + 1) % 2 = 0 := by omega
    by_cases first : token.fits index = true
    · rw [stop?, if_pos first]
      obtain ⟨operator, rfl⟩ := (fits_odd odd).mp first
      by_cases second : operand.fits (index + 1) = true
      · rw [stop?, if_pos second]
        obtain ⟨expression, taken⟩ := (fits_even even).mp second
        have later (next : Partial) := ih next (by omega) fun token member => known token (by simp [member])
        rcases isSign_or_isScale operator with sign | scale
        · rw [readPairs_sign sign taken]
          exact later _
        · rw [readPairs_scale scale taken]
          exact later _
      · rw [stop?, if_neg second]
        have stops := readOperand_misplaced even (known operand (by simp)) second
        rcases isSign_or_isScale operator with sign | scale
        · simp only [readPairs, roleAt_of_isSign sign, stops, bind, Except.bind]
        · simp only [readPairs, roleAt_of_isScale scale, stops, bind, Except.bind]
    · rw [stop?, if_neg first]
      exact readPairs_misplaced odd (known token (by simp)) first read (operand :: rest)

theorem ofTokens_outcome {tokens : List Token}
    (known : ∀ token ∈ tokens, ∃ kind, Token.kind token = .ok kind) :
    match stop? 0 tokens with
    | some place => ofTokens tokens = .error (.syntaxError (some place))
    | none => ∃ expression, ofTokens tokens = .ok expression := by
  cases tokens with
  | nil => rfl
  | cons token rest =>
    have later := fun read => readPairs_outcome (show 1 % 2 = 1 from rfl) read fun other member =>
      known other (List.mem_cons_of_mem token member)
    by_cases first : token.fits 0 = true
    · rw [stop?, if_pos first]
      obtain ⟨expression, taken⟩ := (fits_even rfl).mp first
      have onward : ofTokens (token :: rest) = readPairs ⟨none, expression⟩ 1 rest :=
        ofTokens_product (.operand taken) rest
      rw [onward]
      exact later _
    · rw [stop?, if_neg first]
      have stops := readOperand_misplaced rfl (known token (by simp)) first
      simp only [ofTokens, stops, bind, Except.bind]

theorem stop_of_readPairs {index : Nat} (odd : index % 2 = 1) {read : Partial} {tokens : List Token}
    {expression : Expression} (ok : readPairs read index tokens = .ok expression) :
    stop? index tokens = none := by
  induction read, index, tokens using readPairs.induct with
  | case1 read index => exact if_pos odd
  | case2 read index token =>
    obtain ⟨_, _, equal⟩ := bind_eq_ok.mp ok
    cases equal
  | case3 read index token operand rest ih =>
    have even : (index + 1) % 2 = 0 := by omega
    have onward (operator : Operator) (join : Expression → Partial) (next : Partial)
        (reading : readOperand (index + 1) operand join = .ok next)
        (later : readPairs next (index + 2) rest = .ok expression) :
        stop? index (operator.text :: operand :: rest) = none := by
      obtain ⟨right, taken, _⟩ := operand_of_readOperand reading
      rw [stop?, if_pos ((fits_odd odd).mpr ⟨operator, rfl⟩), stop?, if_pos ((fits_even even).mpr ⟨right, taken⟩)]
      exact ih next (by omega) later
    rw [readPairs] at ok
    obtain ⟨found, known, read⟩ := bind_eq_ok.mp ok
    rcases role_eq_ok (roleAt_eq_ok known) with
      ⟨_, rfl, _⟩ | ⟨operator, rfl, _, rfl⟩ | ⟨operator, rfl, _, rfl⟩ | ⟨rfl, _⟩
    · cases read
    · obtain ⟨next, reading, later⟩ := bind_eq_ok.mp read
      exact onward operator _ next reading later
    · obtain ⟨next, reading, later⟩ := bind_eq_ok.mp read
      exact onward operator _ next reading later
    · cases read

theorem exists_ofTokens_iff {tokens : List Token} :
    (∃ expression, ofTokens tokens = .ok expression) ↔ Alternates tokens := by
  constructor
  · rintro ⟨expression, ok⟩
    rw [← stop_eq_none]
    cases tokens with
    | nil => cases ok
    | cons token rest =>
      obtain ⟨next, reading, later⟩ := bind_eq_ok.mp ok
      obtain ⟨first, taken, _⟩ := operand_of_readOperand reading
      rw [stop?, if_pos ((fits_even rfl).mpr ⟨first, taken⟩)]
      exact stop_of_readPairs rfl later
  · intro alternates
    have known : ∀ token ∈ tokens, ∃ kind, Token.kind token = .ok kind := by
      intro token member
      obtain ⟨index, inside, rfl⟩ := List.getElem_of_mem member
      have fits := alternates.2 index inside
      unfold Token.fits at fits
      split at fits
      next kind known => exact ⟨kind, known⟩
      next => cases fits
    have outcome := ofTokens_outcome known
    rwa [stop_eq_none.mpr alternates] at outcome

/-- A text is an expression exactly when operands and operators alternate in its tokens, calls folded. Its
tree is the one that the grammar gives these tokens, which stand in it from left to right. Any other text is
rejected at the first token out of place, at the last token if that is an operator, or at the start if there
is no token, provided that no token begins with too long an integer. -/
theorem ofText_grammar (text : Text) :
    let tokens := Token.foldCalls (Token.ofText text)
    ((∃ expression, ofText text = .ok expression) ↔ Alternates tokens) ∧
    (∀ expression, ofText text = .ok expression ↔ Sum tokens expression) ∧
    (∀ expression, ofText text = .ok expression → expression.tokens = tokens) ∧
    ((∀ token ∈ tokens, token.beginsTooLong = false) →
      (tokens = [] → ofText text = .error (.syntaxError (some 0))) ∧
      (∀ index (inside : index < tokens.length), ¬tokens[index].fits index = true →
        (∀ earlier (before : earlier < index), tokens[earlier].fits earlier = true) →
          ofText text = .error (.syntaxError (some index))) ∧
      ((∀ index (inside : index < tokens.length), tokens[index].fits index = true) →
        tokens ≠ [] → tokens.length % 2 = 0 →
          ofText text = .error (.syntaxError (some (tokens.length - 1))))) := by
  intro tokens
  refine ⟨exists_ofTokens_iff, fun expression => ofTokens_eq_ok, fun expression ok => ?_, fun short => ?_⟩
  · exact (ofTokens_eq_ok.mp ok).tokens_eq
  have known : ∀ token ∈ tokens, ∃ kind, Token.kind token = .ok kind := by
    intro token member
    have nonempty := Token.ne_nil_of_mem_foldCalls (fun original => Token.ne_nil_of_mem_ofText) member
    exact Token.kind_eq_ok nonempty (short token member)
  have stops (place : Nat) (found : stop? 0 tokens = some place) :
      ofText text = .error (.syntaxError (some place)) := by
    have outcome := ofTokens_outcome known
    rwa [found] at outcome
  refine ⟨fun empty => stops 0 ?_, fun index inside misplaced fitting => stops index ?_,
    fun fitting _ even => stops _ ?_⟩
  · rw [empty]
    rfl
  · have found : stop? 0 tokens = some (0 + index) :=
      stop_of_misplaced inside (by simpa using misplaced) fun earlier before => by
        simpa using fitting earlier before
    simpa using found
  · have unfinished : ¬(0 + tokens.length) % 2 = 1 := by omega
    rw [stop_of_fitting fun offset inside => by simpa using fitting offset inside, if_neg unfinished]
    simp

def mixedTree : Expression :=
  .binary (.number ['1']) .add (.binary (.number ['2']) .multiply (.cell ['A', '1']))

theorem ofText_grammar_samples :
    ofText "1+2*A1".toList = .ok mixedTree ∧
      mixedTree.tokens = Token.foldCalls (Token.ofText "1+2*A1".toList) ∧
      ofText [] = .error (.syntaxError (some 0)) ∧
      ofText "1+*2".toList = .error (.syntaxError (some 2)) ∧
      ofText "SUM(A1:A2)/".toList = .error (.syntaxError (some 1)) := by
  have written : Token.foldCalls (Token.ofText "1+2*A1".toList) = [['1'], ['+'], ['2'], ['*'], ['A', '1']] := by
    decide +kernel
  have one : Product [['1']] (.number ['1']) := .operand (.number rfl)
  have two : Product [['2']] (.number ['2']) := .operand (.number rfl)
  have cell : Operand ['A', '1'] (.cell ['A', '1']) := .cell (by decide +kernel)
  have scaled := two.scale (show Operator.multiply.isScale = true from rfl) cell
  have sum : Sum (Token.foldCalls (Token.ofText "1+2*A1".toList)) mixedTree := by
    rw [written]
    exact (Sum.product one).sign (show Operator.add.isSign = true from rfl) scaled
  have read := ((ofText_grammar "1+2*A1".toList).2.1 mixedTree).mpr sum
  refine ⟨read, (ofText_grammar _).2.2.1 mixedTree read, ?_, ?_, ?_⟩
  · exact ((ofText_grammar []).2.2.2 (by decide +kernel)).1 (by decide +kernel)
  · exact ((ofText_grammar "1+*2".toList).2.2.2 (by decide +kernel)).2.1 2 (by decide +kernel) (by decide +kernel)
      (by decide +kernel)
  · have last : (Token.foldCalls (Token.ofText "SUM(A1:A2)/".toList)).length - 1 = 1 := by decide +kernel
    have stops := ((ofText_grammar "SUM(A1:A2)/".toList).2.2.2 (by decide +kernel)).2.2 (by decide +kernel)
      (by decide +kernel) (by decide +kernel)
    rwa [last] at stops

end Expression

end Worksheet
