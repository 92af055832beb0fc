import Worksheet.Proofs.Builtin.Depth
import Worksheet.Proofs.CellName
import Worksheet.Proofs.Formula.Alternation
import Worksheet.Proofs.Formula.Arithmetic
import Worksheet.Proofs.Formula.Nesting
import Worksheet.Proofs.Text.Letter

/-! Why an argument has no value. A nested formula is answered by itself, so that only too deep a nesting gets out of
it; any other argument fails on a number that is too large or has too many digits. -/

namespace Worksheet

variable {α : Type}

/-! ## Ranges and cells -/

namespace Address

theorem ofParts_onlyFails (letters digits : Text) : OnlyFails [.unreadable] (ofParts letters digits) :=
  (Text.readNat_onlyFails digits).bind fun _ _ => .ok _

theorem rangeColumn_eq_ok {letters : Text} (nonempty : letters ≠ [])
    (inName : ∀ char ∈ letters, Text.isLetter char = true) : ∃ column, rangeColumn letters = .ok column := by
  cases letters with
  | nil => contradiction
  | cons first rest =>
    obtain ⟨capital, upper⟩ := Text.upperChar_of_isLetter (inName first (by simp))
    exact ⟨_, by rw [rangeColumn, upper]⟩

end Address

theorem Text.readInt_onlyFails (text : Text) : OnlyFails [.unreadable] (readInt text) := by
  unfold readInt
  simp only
  split
  · exact (readNat_onlyFails _).bind fun _ _ => .ok _
  · exact .error (by simp)

theorem Address.rangeSpan_onlyFails {text : Text} {parts : SpanParts} (found : spanParts? text = some parts) :
    OnlyFails [.unreadable]
      (rangeSpan parts.firstLetters parts.firstDigits parts.lastLetters parts.lastDigits) := by
  unfold spanParts? at found
  split at found
  next first last _ =>
    split at found
    next firstFound lastFound =>
      split at found
      · cases found
      · cases found
        obtain ⟨firstSome, _, firstLetters, _⟩ := cellParts_eq_some firstFound
        obtain ⟨lastSome, _, lastLetters, _⟩ := cellParts_eq_some lastFound
        obtain ⟨firstColumn, firstOk⟩ := rangeColumn_eq_ok firstSome firstLetters
        obtain ⟨lastColumn, lastOk⟩ := rangeColumn_eq_ok lastSome lastLetters
        simp only [rangeSpan, firstOk, lastOk]
        refine (Text.readInt_onlyFails _).bind fun firstRow _ => ?_
        exact (Text.readInt_onlyFails _).bind fun lastRow _ => .ok _
    next => cases found
  next => cases found

/-! ## Comparisons -/

theorem Relation.holds_onlyFails (left right : Value) (relation : Relation) :
    OnlyFails [.outOfRange, .unreadable] (relation.holds left right) := by
  cases relation with
  | equal => exact left.equal_onlyFails right
  | notEqual => exact (left.equal_onlyFails right).bind fun _ _ => .ok _
  | less => exact (left.compare_onlyFails right).bind fun _ _ => .ok _
  | lessOrEqual => exact (left.compare_onlyFails right).bind fun _ _ => .ok _
  | greater => exact (left.compare_onlyFails right).bind fun _ _ => .ok _
  | greaterOrEqual => exact (left.compare_onlyFails right).bind fun _ _ => .ok _

theorem Relation.apply_onlyFails (relation : Relation) (left right : Value) :
    OnlyFails [.outOfRange, .unreadable] (relation.apply left right) := by
  unfold apply
  split
  · exact .ok _
  · exact .ok _
  · split
    · exact .ok _
    · exact (relation.holds_onlyFails left right).bind fun _ _ => .ok _

/-! ## Constants and arithmetic -/

namespace Argument

theorem isArithmeticOperand_onlyFails (token : Token) :
    OnlyFails [.unreadable] (isArithmeticOperand token) := by
  refine (Number.readWhole_onlyFails token).bind fun found _ => ?_
  split
  · exact .ok _
  · exact .ok _

theorem alternates_onlyFails (tokens : List Token) : OnlyFails [.unreadable] (alternates tokens) := by
  fun_induction alternates tokens with
  | case1 => exact .ok _
  | case2 operand => exact isArithmeticOperand_onlyFails operand
  | case3 operand operator rest ih =>
    refine (isArithmeticOperand_onlyFails operand).bind fun isOperand _ => ?_
    split
    · split
      · exact ih
      · exact .ok _
    · exact .ok _

theorem isArithmetic_onlyFails (tokens : List Token) : OnlyFails [.unreadable] (isArithmetic tokens) := by
  unfold isArithmetic
  split
  · exact .ok _
  · exact alternates_onlyFails tokens

theorem ofPlain_onlyFails (text : Text) : OnlyFails [.unreadable] (ofPlain text) := by
  refine (Number.readWhole_onlyFails text).bind fun found _ => ?_
  cases found with
  | some number => exact .ok _
  | none =>
    simp only
    split
    · exact .ok _
    refine (isArithmetic_onlyFails _).bind fun arithmetic taken => ?_
    split
    next isTrue =>
      obtain ⟨expression, parsed⟩ := exists_ofText_of_isArithmetic (isTrue ▸ taken)
      simp only [parsed]
      exact .ok _
    next => exact .ok _

theorem ofPlain_eq_ok {text : Text} {argument : Argument} (plain : ofPlain text = .ok argument) :
    (∃ value, argument = .constant value) ∨ ∃ expression, argument = .arithmetic expression := by
  obtain ⟨found, _, onward⟩ := bind_eq_ok.mp plain
  cases found with
  | some number =>
    cases onward
    exact Or.inl ⟨_, rfl⟩
  | none =>
    simp only at onward
    split at onward
    · cases onward
      exact Or.inl ⟨_, rfl⟩
    obtain ⟨arithmetic, _, onward⟩ := bind_eq_ok.mp onward
    split at onward
    · obtain ⟨expression, _, equal⟩ := bind_eq_ok.mp onward
      cases equal
      exact Or.inr ⟨_, rfl⟩
    · cases onward
      exact Or.inl ⟨_, rfl⟩

end Argument

/-! ## Formulas -/

namespace Expression

theorem shallow_roleAt (token : Token) : Shallow (roleAt token) := by
  unfold roleAt
  split
  · exact .ok _
  · exact .error rfl

theorem shallow_readOperand (index : Nat) (token : Token) (join : Expression → Partial) :
    Shallow (readOperand index token join) := by
  refine (shallow_roleAt token).bind fun found => ?_
  cases found with
  | operand expression => exact .ok _
  | _ => exact .throw rfl

theorem shallow_readPairs (read : Partial) (index : Nat) (tokens : List Token) :
    Shallow (readPairs read index tokens) := by
  induction read, index, tokens using readPairs.induct with
  | case1 read index => exact .ok _
  | case2 read index token => exact (shallow_roleAt token).bind fun _ => .throw rfl
  | case3 read index token operand rest ih =>
    rw [readPairs]
    refine (shallow_roleAt token).bind fun found => ?_
    cases found with
    | sign operator => exact (shallow_readOperand _ _ _).bind fun next => ih next
    | scale operator => exact (shallow_readOperand _ _ _).bind fun next => ih next
    | operand expression => exact .throw rfl
    | none => exact .throw rfl

theorem shallow_ofText (text : Text) : Shallow (ofText text) := by
  unfold ofText
  cases Token.foldCalls (Token.ofText text) with
  | nil => exact .error rfl
  | cons token rest => exact (shallow_readOperand _ _ _).bind fun read => shallow_readPairs read 1 rest

end Expression

namespace Formula

theorem shallow_apply (ambient : Ambient) (name : Text) (values : List Value) :
    Shallow (apply ambient name values).result := by
  unfold apply
  split
  next builtin found =>
    unfold Builtin.find? at found
    have member := List.mem_of_find?_eq_some found
    rw [Outcome.result_ofExcept, Builtin.answer]
    split
    · exact .ok _
    · exact (Builtin.shallow_of_mem member ambient _).bind fun _ => .ok _
  next => exact .ok _

theorem shallow_evaluateExpression {view : View} (cells : ∀ position, OnlyFails [.unreadable] (view position))
    (text : Text) : Shallow (evaluateExpression view (Expression.ofText text)).result := by
  refine (Expression.shallow_ofText text).bind fun expression => ?_
  exact (Shallow.of_onlyFails (expression.evaluate_onlyFails cells) (by decide)).bind fun _ => .ok _

theorem exists_result_settle {limit depth : Int} (below : depth < limit) (source : Text)
    {body : Unit → Outcome Answer} (shallow : Shallow (body ()).result) :
    ∃ answer, (settle limit source depth body).result = .ok answer := by
  rw [settle, if_neg (by omega)]
  cases result : (body ()).result with
  | ok answer => exact ⟨answer, by rw [Outcome.recover_of_ok result, result]⟩
  | error failure =>
    have other := shallow failure result
    rw [Outcome.recover_of_error result]
    cases failure with
    | tooDeep reached bound => cases other
    | _ => exact ⟨_, rfl⟩

theorem result_answer_or_isDepth (setting : Setting) (view : View) (depth : Int) (source : Text)
    (formula : Formula) :
    (∃ answer, (formula.answer setting view depth source).result = .ok answer) ∨
      ∃ failure, (formula.answer setting view depth source).result = .error failure ∧ failure.isDepth = true := by
  have settled (body : Unit → Outcome Answer) :
      (∃ answer, (settle setting.maxDepth source depth body).result = .ok answer) ∨
        ∃ failure, (settle setting.maxDepth source depth body).result = .error failure ∧ failure.isDepth = true := by
    unfold settle
    cases result : (if depth ≥ setting.maxDepth then Outcome.fail (.tooDeep depth setting.maxDepth)
        else body ()).result with
    | ok answer => exact Or.inl ⟨answer, by rw [Outcome.recover_of_ok result, result]⟩
    | error failure =>
      rw [Outcome.recover_of_error result]
      cases failure with
      | tooDeep reached bound =>
        simp only [onFailure]
        split
        · exact Or.inr ⟨_, rfl, rfl⟩
        · exact Or.inl ⟨_, rfl⟩
      | _ => exact Or.inl ⟨_, rfl⟩
  cases formula with
  | plain => exact Or.inl ⟨_, rfl⟩
  | blank => exact settled _
  | call name arguments => exact settled _
  | expression parsed => exact settled _

end Formula

/-! ## Arguments -/

namespace Argument

variable {setting : Setting} {view : View}

/-- Resolved at any depth at which it enters no formula at the limit, the argument fails on nothing but a number
that is too large, and a nested formula not at all. -/
def Settled (setting : Setting) (view : View) (argument : Argument) : Prop :=
  ∀ depth keepsErrors, (∀ reached ∈ entered setting view depth keepsErrors argument, reached < setting.maxDepth) →
    OnlyFails [.outOfRange, .unreadable] (resolve setting view depth keepsErrors argument).result

theorem shallow_resolveAll {arguments : List Argument}
    (settled : ∀ argument ∈ arguments, Settled setting view argument)
    (depth : Int) (keepsErrors : Bool)
    (below : ∀ reached ∈ enteredAll setting view depth keepsErrors arguments, reached < setting.maxDepth) :
    Shallow (resolveAll setting view depth keepsErrors arguments).result := by
  induction arguments with
  | nil => exact .ok _
  | cons argument rest ih =>
    have belowHere reached member := below reached (List.mem_append_left _ member)
    have only := settled argument (by simp) depth keepsErrors belowHere
    rw [resolveAll, Outcome.result_bind]
    cases resolved : (resolve setting view depth keepsErrors argument).result with
    | error failure =>
      have other := Shallow.of_onlyFails only (by decide) failure resolved
      exact .error other
    | ok value =>
      have later := ih (fun other member => settled other (by simp [member])) (below_of_continue below resolved)
      change Shallow (resolveAll setting view depth keepsErrors rest >>= fun values => pure (value :: values)).result
      rw [Outcome.result_bind]
      exact later.bind fun _ => .ok _

theorem settled_ofResult {α : Type} {read : α → Argument} {result : Except Failure α}
    (only : OnlyFails [.unreadable] result)
    (found : ∀ value, result = .ok value → Settled setting view (read value)) :
    Settled setting view (ofResult read result) := by
  cases result with
  | ok value => exact found value rfl
  | error failure =>
    intro depth keepsErrors below
    exact OnlyFails.error (List.mem_cons_of_mem _ (only failure rfl))

theorem onlyFails_nested {outcome : Outcome Answer} (answered : ∃ answer, outcome.result = .ok answer)
    (keepsErrors : Bool) {causes : List Failure} :
    OnlyFails causes (outcome >>= fun answer => pure (answer.asArgument keepsErrors)).result := by
  obtain ⟨answer, ok⟩ := answered
  rw [Outcome.result_bind, ok]
  exact .ok _

theorem settled_ofTrimmed (cells : ∀ position, OnlyFails [.unreadable] (view position)) (text : Text) :
    Settled setting view (ofTrimmed text) := by
  induction text using ofTrimmed_induction with
  | range text parts found =>
    refine settled_ofResult (Address.rangeSpan_onlyFails found) fun span _ depth keepsErrors below => ?_
    have only : OnlyFails [.outOfRange, .unreadable] (span.positions.mapM view) :=
      (OnlyFails.mapM cells span.positions).mono (by simp)
    exact only.bind fun _ _ => .ok _
  | cell text letters digits found =>
    refine settled_ofResult (Address.ofParts_onlyFails letters digits) fun position _ depth keepsErrors below => ?_
    exact (cells position).mono (by simp)
  | comparison text found equal left right =>
    intro depth keepsErrors below
    have first := left depth keepsErrors fun reached member => below reached (List.mem_append_left _ member)
    rw [resolve, Outcome.result_bind]
    refine first.bind fun leftValue resolved => ?_
    have second := right depth keepsErrors (below_of_continue below resolved)
    rw [Outcome.result_bind]
    exact second.bind fun rightValue _ => found.relation.apply_onlyFails leftValue rightValue
  | call text name inner found pieces =>
    intro depth keepsErrors below
    obtain ⟨own, inside⟩ := below_of_enter below
    have settled : ∀ argument ∈ (Scan.splitArguments inner).map ofText, Settled setting view argument := by
      intro argument member
      obtain ⟨piece, among, rfl⟩ := List.mem_map.mp member
      exact pieces piece among
    simp only [resolve, Formula.callFunction_eq]
    -- A failure of its arguments is no overrun, so the call itself turns it into its answer.
    refine onlyFails_nested (Formula.exists_result_settle own _ ?_) keepsErrors
    rw [Outcome.result_bind]
    exact (shallow_resolveAll settled _ _ inside).bind fun values => Formula.shallow_apply _ _ values
  | formula text starts none =>
    intro depth keepsErrors below
    obtain ⟨own, _⟩ := below_of_enter below
    rw [resolve]
    exact onlyFails_nested (Formula.exists_result_settle own _ (Formula.shallow_evaluateExpression cells text))
      keepsErrors
  | plain text =>
    refine settled_ofResult (ofPlain_onlyFails text) fun argument plain depth keepsErrors below => ?_
    rcases ofPlain_eq_ok plain with ⟨value, rfl⟩ | ⟨expression, rfl⟩
    · exact OnlyFails.ok _
    · exact expression.evaluate_onlyFails cells

end Argument

end Worksheet
