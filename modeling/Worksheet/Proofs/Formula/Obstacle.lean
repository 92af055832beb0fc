import Worksheet.Proofs.Formula.Resolution
import Worksheet.Proofs.Value.Obstacle

/-! Why an argument has no value. Whatever text it has, it is read; what fails is a nested formula at the limit of the
depth, a numeral or a cell name of too many digits, or an integer that two operands or two sides of a comparison
cannot be computed with. What is taken for arithmetic has an operator and comes to a number. -/

namespace Worksheet

variable {failure : Failure}

theorem Text.long_of_readNat {digits : Text} (failed : readNat digits = .error failure) :
    failure = .unreadable ∧ digitLimit < digits.length := by
  unfold readNat at failed
  split at failed
  next long =>
    cases failed
    exact ⟨rfl, long⟩
  next => cases failed

def Position.IsLong (position : Position) : Prop :=
  ¬Text.Short position.row.natAbs ∨ ¬Text.Short position.column.natAbs

theorem Sheet.isLong_of_view {sheet : Sheet} {position : Position} (failed : sheet.view position = .error failure) :
    failure = .unreadable ∧ position.IsLong := by
  rcases bind_eq_error.mp failed with unnamed | ⟨_, _, found⟩
  · rcases bind_eq_error.mp unnamed with row | ⟨_, _, onward⟩
    · exact ⟨(Text.not_short_of_writeInt row).1, Or.inl (Text.not_short_of_writeInt row).2⟩
    rcases bind_eq_error.mp onward with column | ⟨_, _, joined⟩
    · exact ⟨(Text.not_short_of_writeInt column).1, Or.inr (Text.not_short_of_writeInt column).2⟩
    cases joined
  · cases found

namespace Address

variable {letters digits : Text}

theorem long_of_ofParts (failed : ofParts letters digits = .error failure) :
    failure = .unreadable ∧ Text.digitLimit < digits.length := by
  rcases bind_eq_error.mp failed with unread | ⟨_, _, onward⟩
  · exact Text.long_of_readNat unread
  · cases onward

theorem long_of_readInt (nonempty : digits ≠ []) (allDigits : ∀ char ∈ digits, Text.isDigit char = true)
    (failed : Text.readInt digits = .error failure) : failure = .unreadable ∧ Text.digitLimit < digits.length := by
  rw [Text.readInt_of_digits allDigits nonempty] at failed
  rcases bind_eq_error.mp failed with unread | ⟨_, _, onward⟩
  · exact Text.long_of_readNat unread
  · cases onward

theorem long_of_rangeSpan {text : Text} {parts : SpanParts} (found : spanParts? text = some parts)
    (failed : rangeSpan parts.firstLetters parts.firstDigits parts.lastLetters parts.lastDigits = .error failure) :
    failure = .unreadable ∧
      (Text.digitLimit < parts.firstDigits.length ∨ Text.digitLimit < parts.lastDigits.length) := by
  unfold spanParts? at found
  split at found
  next first last _ =>
    split at found
    next firstFound lastFound =>
      split at found
      · cases found
      cases found
      obtain ⟨firstSome, firstRow, firstLetters, firstDigits, _⟩ := cellParts_eq_some firstFound
      obtain ⟨lastSome, lastRow, lastLetters, lastDigits, _⟩ := cellParts_eq_some lastFound
      obtain ⟨firstColumn, firstOk⟩ := rangeColumn_eq_ok firstSome firstLetters
      obtain ⟨lastColumn, lastOk⟩ := rangeColumn_eq_ok lastSome lastLetters
      simp only [rangeSpan, firstOk, lastOk] at failed
      rcases bind_eq_error.mp failed with ⟨⟨⟩⟩ | ⟨_, _, failed⟩
      rcases bind_eq_error.mp failed with ⟨⟨⟩⟩ | ⟨_, _, failed⟩
      rcases bind_eq_error.mp failed with unread | ⟨_, _, failed⟩
      · exact (long_of_readInt firstRow firstDigits unread).imp_right Or.inl
      rcases bind_eq_error.mp failed with unread | ⟨_, _, failed⟩
      · exact (long_of_readInt lastRow lastDigits unread).imp_right Or.inr
      cases failed
    next => cases found
  next => cases found

end Address

/-! ## Expressions -/

namespace Expression

inductive Obstructs (view : View) : Expression → Failure → Prop
  | numeral {token : Token} (long : token.beginsTooLong = true) : Obstructs view (.number token) .unreadable
  | row {token letters digits : Text} (named : Address.cellParts? token = some (letters, digits))
    (long : Text.digitLimit < digits.length) : Obstructs view (.cell token) .unreadable
  | key {token : Token} {position : Position} (named : Address.readCell token = .ok (some position))
    (long : position.IsLong) : Obstructs view (.cell token) .unreadable
  | content {token : Token} {position : Position} {value : Value} {failure : Failure}
    (named : Address.readCell token = .ok (some position)) (found : view position = .ok value)
    (inside : value.Obstructs failure) : Obstructs view (.cell token) failure
  | left {left right : Expression} {operator : Operator} {failure : Failure}
    (inside : Obstructs view left failure) : Obstructs view (.binary left operator right) failure
  | right {left right : Expression} {operator : Operator} {failure : Failure}
    (inside : Obstructs view right failure) : Obstructs view (.binary left operator right) failure
  | leftOperand {left right : Expression} {operator : Operator} {value : Value} {failure : Failure}
    (evaluated : left.evaluate view = .ok value) (inside : value.Obstructs failure) :
    Obstructs view (.binary left operator right) failure
  | rightOperand {left right : Expression} {operator : Operator} {value : Value} {failure : Failure}
    (evaluated : right.evaluate view = .ok value) (inside : value.Obstructs failure) :
    Obstructs view (.binary left operator right) failure

theorem Obstructs.cause {view : View} {expression : Expression} (obstructs : expression.Obstructs view failure) :
    failure = .outOfRange ∨ failure = .unreadable := by
  induction obstructs with
  | numeral _ => exact Or.inr rfl
  | row _ _ => exact Or.inr rfl
  | key _ _ => exact Or.inr rfl
  | content _ _ inside => exact inside.cause
  | left _ ih => exact ih
  | right _ ih => exact ih
  | leftOperand _ inside => exact inside.cause
  | rightOperand _ inside => exact inside.cause

theorem obstructs_of_cellNumber {value : Value} (failed : cellNumber value = .error failure) :
    value.Obstructs failure := by
  unfold cellNumber at failed
  split at failed
  · cases failed
  · cases failed
  · rcases bind_eq_error.mp failed with long | ⟨text, shown, failed⟩
    · exact Value.obstructs_of_toText long
    rcases bind_eq_error.mp failed with unread | ⟨found, _, failed⟩
    · obtain ⟨rfl, long⟩ := Number.beginsTooLong_of_readPrefix unread
      exact .read shown long
    cases found with
    | none => cases failed
    | some number => cases failed

variable {sheet : Sheet}

theorem obstructs_of_cell {token : Token} (failed : (cell token).evaluate sheet.view = .error failure) :
    (cell token).Obstructs sheet.view failure := by
  rcases bind_eq_error.mp failed with unread | ⟨found, named, failed⟩
  · unfold Address.readCell at unread
    split at unread
    next letters digits parts =>
      obtain ⟨rfl, long⟩ := Address.long_of_ofParts (map_eq_error.mp unread)
      exact .row parts long
    next => cases unread
  cases found with
  | none => cases failed
  | some position =>
    rcases bind_eq_error.mp failed with unseen | ⟨value, found, failed⟩
    · obtain ⟨rfl, long⟩ := Sheet.isLong_of_view unseen
      exact .key named long
    rcases bind_eq_error.mp failed with unread | ⟨_, _, failed⟩
    · exact .content named found (obstructs_of_cellNumber unread)
    cases failed

theorem obstructs_of_evaluate {expression : Expression} (failed : expression.evaluate sheet.view = .error failure) :
    expression.Obstructs sheet.view failure := by
  induction expression generalizing failure with
  | number token =>
    rcases bind_eq_error.mp failed with unread | ⟨found, _, onward⟩
    · obtain ⟨rfl, long⟩ := Number.beginsTooLong_of_readPrefix unread
      exact .numeral long
    cases found with
    | none => cases onward
    | some number => cases onward
  | quoted token => cases failed
  | cell token => exact obstructs_of_cell failed
  | word token => cases failed
  | binary left operator right leftIh rightIh =>
    rw [evaluate_binary] at failed
    rcases bind_eq_error.mp failed with first | ⟨leftNumber, first, failed⟩
    · rcases bind_eq_error.mp first with unevaluated | ⟨value, evaluated, unread⟩
      · exact .left (leftIh unevaluated)
      · exact .leftOperand evaluated (Value.obstructs_of_toOperand unread)
    rcases bind_eq_error.mp failed with second | ⟨rightNumber, second, failed⟩
    · rcases bind_eq_error.mp second with unevaluated | ⟨value, evaluated, unread⟩
      · exact .right (rightIh unevaluated)
      · exact .rightOperand evaluated (Value.obstructs_of_toOperand unread)
    obtain ⟨leftValue, leftEvaluated, leftRead⟩ := bind_eq_ok.mp first
    obtain ⟨rightValue, rightEvaluated, rightRead⟩ := bind_eq_ok.mp second
    rcases Operator.obstructs_of_apply leftRead rightRead (map_eq_error.mp failed) with inside | inside
    · exact .leftOperand leftEvaluated inside
    · exact .rightOperand rightEvaluated inside

end Expression

/-! ## Comparisons -/

theorem Relation.obstructs_of_apply {relation : Relation} {left right : Value}
    (failed : relation.apply left right = .error failure) : left.Obstructs failure ∨ right.Obstructs failure := by
  unfold apply at failed
  split at failed
  · cases failed
  · cases failed
  split at failed
  · cases failed
  rcases bind_eq_error.mp failed with unknown | ⟨_, _, onward⟩
  · cases relation with
    | equal => exact Value.obstructs_of_equal unknown
    | notEqual =>
      rcases bind_eq_error.mp unknown with unknown | ⟨_, _, onward⟩
      · exact Value.obstructs_of_equal unknown
      · cases onward
    | _ =>
      rcases bind_eq_error.mp unknown with unknown | ⟨_, _, onward⟩
      · exact Value.obstructs_of_compare unknown
      · cases onward
  · cases onward

/-! ## Nested formulas -/

/-- Only an overrun of the depth leaves a formula inside another. -/
theorem Formula.settle_eq_error {limit depth : Int} {source : Text} {body : Unit → Outcome Answer}
    (failed : (settle limit source depth body).result = .error failure) :
    limit ≤ depth ∧ failure = .tooDeep depth limit ∨
      ∃ reached bound, failure = .tooDeep reached bound ∧ (body ()).result = .error failure := by
  unfold settle at failed
  cases inside : (if depth ≥ limit then Outcome.fail (.tooDeep depth limit) else body ()).result with
  | ok answer =>
    rw [Outcome.recover_of_ok inside, inside] at failed
    cases failed
  | error cause =>
    rw [Outcome.recover_of_error inside] at failed
    have same : failure = cause ∧ ∃ reached bound, failure = .tooDeep reached bound := by
      cases cause with
      | tooDeep reached bound =>
        simp only [onFailure] at failed
        split at failed
        · cases failed
          exact ⟨rfl, reached, bound, rfl⟩
        · cases failed
      | _ => cases failed
    obtain ⟨rfl, reached, bound, deep⟩ := same
    split at inside
    next atLimit =>
      cases inside
      exact Or.inl ⟨atLimit, rfl⟩
    next => exact Or.inr ⟨reached, bound, deep, inside⟩

theorem callStart_of_callParts {text name inner : Text} (found : callParts? text = some (name, inner)) :
    (callStart? text).isSome = true := by
  unfold callParts? at found
  split at found
  next start => rw [start]; rfl
  next => cases found

namespace Argument

variable {setting : Setting} {view : View} {depth : Int} {keepsErrors : Bool} {text : Text}

/-- A formula inside the argument stands at the limit of the depth, or an integer that the argument is read or
computed with cannot be converted. -/
inductive Obstructs (setting : Setting) (view : View) (depth : Int) (keepsErrors : Bool) : Text → Failure → Prop
  | corner {text : Text} {parts : Address.SpanParts} (found : Address.spanParts? text = some parts)
    (long : Text.digitLimit < parts.firstDigits.length ∨ Text.digitLimit < parts.lastDigits.length) :
    Obstructs setting view depth keepsErrors text .unreadable
  | row {text letters digits : Text} (found : Address.cellParts? text = some (letters, digits))
    (long : Text.digitLimit < digits.length) : Obstructs setting view depth keepsErrors text .unreadable
  | rangeKey {text : Text} {parts : Address.SpanParts} {span : Span} {position : Position}
    (found : Address.spanParts? text = some parts)
    (named : Address.rangeSpan parts.firstLetters parts.firstDigits parts.lastLetters parts.lastDigits = .ok span)
    (member : position ∈ span.positions) (long : position.IsLong) :
    Obstructs setting view depth keepsErrors text .unreadable
  | cellKey {text letters digits : Text} {position : Position}
    (found : Address.cellParts? text = some (letters, digits)) (named : Address.ofParts letters digits = .ok position)
    (long : position.IsLong) : Obstructs setting view depth keepsErrors text .unreadable
  | left {text : Text} {found : Comparison} {failure : Failure} (compared : Comparison.find? text = some found)
    (inside : Obstructs setting view depth keepsErrors (Text.strip found.left) failure) :
    Obstructs setting view depth keepsErrors text failure
  | right {text : Text} {found : Comparison} {failure : Failure} (compared : Comparison.find? text = some found)
    (inside : Obstructs setting view depth keepsErrors (Text.strip found.right) failure) :
    Obstructs setting view depth keepsErrors text failure
  | sides {text : Text} {found : Comparison} {left right : Value} {failure : Failure}
    (compared : Comparison.find? text = some found)
    (first : (resolve setting view depth keepsErrors (ofText found.left)).result = .ok left)
    (second : (resolve setting view depth keepsErrors (ofText found.right)).result = .ok right)
    (either : left.Obstructs failure ∨ right.Obstructs failure) :
    Obstructs setting view depth keepsErrors text failure
  | overrun {text : Text} {reached : Int} (opens : (callStart? text).isSome = true) (deeper : depth < reached)
    (above : setting.maxDepth ≤ reached) :
    Obstructs setting view depth keepsErrors text (.tooDeep reached setting.maxDepth)
  | numeral {text : Text} (long : Token.beginsTooLong text = true) :
    Obstructs setting view depth keepsErrors text .unreadable
  | operand {text : Text} {token : Token} (member : token ∈ Token.ofText text) (long : token.beginsTooLong = true) :
    Obstructs setting view depth keepsErrors text .unreadable
  | arithmetic {text : Text} {expression : Expression} {failure : Failure}
    (parsed : Expression.ofText text = .ok expression) (inside : expression.Obstructs view failure) :
    Obstructs setting view depth keepsErrors text failure

theorem Obstructs.cause (obstructs : Obstructs setting view depth keepsErrors text failure) :
    (∃ reached, depth < reached ∧ setting.maxDepth ≤ reached ∧ failure = .tooDeep reached setting.maxDepth) ∨
      failure = .outOfRange ∨ failure = .unreadable := by
  induction obstructs with
  | left _ _ ih => exact ih
  | right _ _ ih => exact ih
  | sides _ _ _ either => exact Or.inr (either.elim (·.cause) (·.cause))
  | overrun _ deeper above => exact Or.inl ⟨_, deeper, above, rfl⟩
  | arithmetic _ inside => exact Or.inr inside.cause
  | _ => exact Or.inr (Or.inr rfl)

theorem exists_of_resolveAll {arguments : List Argument}
    (failed : (resolveAll setting view depth keepsErrors arguments).result = .error failure) :
    ∃ argument ∈ arguments, (resolve setting view depth keepsErrors argument).result = .error failure := by
  induction arguments with
  | nil => cases failed
  | cons argument rest ih =>
    rw [resolveAll, Outcome.result_bind] at failed
    rcases bind_eq_error.mp failed with first | ⟨_, _, failed⟩
    · exact ⟨argument, List.mem_cons_self, first⟩
    rw [Outcome.result_bind] at failed
    rcases bind_eq_error.mp failed with later | ⟨_, _, joined⟩
    · obtain ⟨other, member, failed⟩ := ih later
      exact ⟨other, List.mem_cons_of_mem _ member, failed⟩
    cases joined

/-! ## Constants and arithmetic -/

theorem beginsTooLong_of_isArithmeticOperand {token : Token} (failed : isArithmeticOperand token = .error failure) :
    failure = .unreadable ∧ token.beginsTooLong = true := by
  rcases bind_eq_error.mp failed with unread | ⟨found, _, onward⟩
  · exact Number.beginsTooLong_of_readWhole unread
  cases found with
  | some number => cases onward
  | none => cases onward

theorem beginsTooLong_of_alternates {tokens : List Token} (failed : alternates tokens = .error failure) :
    failure = .unreadable ∧ ∃ token ∈ tokens, token.beginsTooLong = true := by
  fun_induction alternates tokens with
  | case1 => cases failed
  | case2 operand =>
    obtain ⟨same, long⟩ := beginsTooLong_of_isArithmeticOperand failed
    exact ⟨same, operand, List.mem_cons_self, long⟩
  | case3 operand operator rest ih =>
    rcases bind_eq_error.mp failed with unread | ⟨isOperand, _, onward⟩
    · obtain ⟨same, long⟩ := beginsTooLong_of_isArithmeticOperand unread
      exact ⟨same, operand, List.mem_cons_self, long⟩
    split at onward
    · split at onward
      · obtain ⟨same, token, member, long⟩ := ih onward
        exact ⟨same, token, List.mem_cons_of_mem _ (List.mem_cons_of_mem _ member), long⟩
      · cases onward
    · cases onward

theorem beginsTooLong_of_isArithmetic {tokens : List Token} (failed : isArithmetic tokens = .error failure) :
    failure = .unreadable ∧ ∃ token ∈ tokens, token.beginsTooLong = true := by
  unfold isArithmetic at failed
  split at failed
  · cases failed
  · exact beginsTooLong_of_alternates failed

theorem obstructs_of_ofPlain (failed : ofPlain text = .error failure) :
    Obstructs setting view depth keepsErrors text failure := by
  rcases bind_eq_error.mp failed with unread | ⟨found, _, onward⟩
  · obtain ⟨rfl, long⟩ := Number.beginsTooLong_of_readWhole unread
    exact .numeral long
  cases found with
  | some number => cases onward
  | none =>
    simp only at onward
    split at onward
    · cases onward
    rcases bind_eq_error.mp onward with unread | ⟨arithmetic, taken, onward⟩
    · obtain ⟨rfl, token, member, long⟩ := beginsTooLong_of_isArithmetic unread
      exact .operand member long
    split at onward
    next isTrue =>
      obtain ⟨expression, parsed⟩ := exists_ofText_of_isArithmetic (isTrue ▸ taken)
      simp only [parsed] at onward
      cases onward
    next => cases onward

theorem parsed_of_ofPlain {expression : Expression} (plain : ofPlain text = .ok (.arithmetic expression)) :
    Expression.ofText text = .ok expression := by
  obtain ⟨found, _, onward⟩ := bind_eq_ok.mp plain
  cases found with
  | some number => cases onward
  | none =>
    simp only at onward
    split at onward
    · cases onward
    obtain ⟨arithmetic, _, onward⟩ := bind_eq_ok.mp onward
    split at onward
    · obtain ⟨other, parsed, equal⟩ := bind_eq_ok.mp onward
      cases equal
      exact parsed
    · cases onward

theorem tokens_of_isArithmetic (arithmetic : isArithmetic (Token.ofText text) = .ok true) :
    3 ≤ (Token.ofText text).length ∧ Token.foldCalls (Token.ofText text) = Token.ofText text := by
  unfold isArithmetic at arithmetic
  split at arithmetic
  · cases arithmetic
  next several => exact ⟨by omega, Token.foldCalls_eq_self (noGroup_of_alternates arithmetic)⟩

theorem exists_binary_of_isArithmetic (arithmetic : isArithmetic (Token.ofText text) = .ok true) :
    ∃ left operator right, Expression.ofText text = .ok (.binary left operator right) := by
  obtain ⟨expression, parsed⟩ := exists_ofText_of_isArithmetic arithmetic
  obtain ⟨several, unfolded⟩ := tokens_of_isArithmetic arithmetic
  have written := (Expression.ofTokens_eq_ok.mp parsed).tokens_eq
  rw [← unfolded, ← written] at several
  cases expression with
  | binary left operator right => exact ⟨left, operator, right, parsed⟩
  | _ =>
    change 3 ≤ 1 at several
    omega

/-! ## Arguments -/

variable {sheet : Sheet}

theorem obstructs_of_ofTrimmed (text : Text) : ∀ {depth : Int} {keepsErrors : Bool} {failure : Failure},
    (resolve setting sheet.view depth keepsErrors (ofTrimmed text)).result = .error failure →
      Obstructs setting sheet.view depth keepsErrors text failure := by
  induction text using ofTrimmed_induction with
  | range text parts found =>
    intro depth keepsErrors failure failed
    unfold ofSpanParts at failed
    cases named : Address.rangeSpan parts.firstLetters parts.firstDigits parts.lastLetters parts.lastDigits with
    | error cause =>
      rw [named] at failed
      cases failed
      obtain ⟨rfl, long⟩ := Address.long_of_rangeSpan found named
      exact .corner found long
    | ok span =>
      rw [named] at failed
      rcases bind_eq_error.mp failed with unseen | ⟨_, _, onward⟩
      · obtain ⟨position, member, unseen⟩ := exists_of_mapM_eq_error unseen
        obtain ⟨rfl, long⟩ := Sheet.isLong_of_view unseen
        exact .rangeKey found named member long
      · cases onward
  | cell text letters digits found =>
    intro depth keepsErrors failure failed
    cases named : Address.ofParts letters digits with
    | error cause =>
      rw [named] at failed
      cases failed
      obtain ⟨rfl, long⟩ := Address.long_of_ofParts named
      exact .row found long
    | ok position =>
      rw [named] at failed
      obtain ⟨rfl, long⟩ := Sheet.isLong_of_view failed
      exact .cellKey found named long
  | comparison text found compared left right =>
    intro depth keepsErrors failure failed
    rw [resolve, Outcome.result_bind] at failed
    rcases bind_eq_error.mp failed with inside | ⟨leftValue, first, failed⟩
    · exact .left compared (left inside)
    rw [Outcome.result_bind] at failed
    rcases bind_eq_error.mp failed with inside | ⟨rightValue, second, failed⟩
    · exact .right compared (right inside)
    exact .sides compared first second (Relation.obstructs_of_apply failed)
  | call text name inner found pieces =>
    intro depth keepsErrors failure failed
    simp only [resolve, Formula.callFunction_eq, Outcome.result_bind] at failed
    have opens := callStart_of_callParts found
    rcases bind_eq_error.mp failed with unsettled | ⟨_, _, onward⟩
    · rcases Formula.settle_eq_error unsettled with ⟨atLimit, rfl⟩ | ⟨reached, bound, rfl, inside⟩
      · exact .overrun opens (by omega) atLimit
      rw [Outcome.result_bind] at inside
      rcases bind_eq_error.mp inside with inside | ⟨values, _, applied⟩
      · obtain ⟨argument, member, failed⟩ := exists_of_resolveAll inside
        obtain ⟨piece, among, rfl⟩ := List.mem_map.mp member
        -- the failure of a piece is one of the whole only if it is an overrun itself
        rcases (pieces piece among failed).cause with ⟨deep, deeper, above, same⟩ | other | other
        · cases same
          exact .overrun opens (by omega) above
        · cases other
        · cases other
      · have shallow := Formula.shallow_apply _ _ values _ applied
        cases shallow
    · cases onward
  | formula text opens none =>
    intro depth keepsErrors failure failed
    rw [resolve, Outcome.result_bind] at failed
    rcases bind_eq_error.mp failed with unsettled | ⟨_, _, onward⟩
    · rcases Formula.settle_eq_error unsettled with ⟨atLimit, rfl⟩ | ⟨reached, bound, rfl, inside⟩
      · exact .overrun opens (by omega) atLimit
      · have shallow := Formula.shallow_evaluateExpression sheet.view_onlyFails text _ inside
        cases shallow
    · cases onward
  | plain text =>
    intro depth keepsErrors failure failed
    cases plain : ofPlain text with
    | error cause =>
      rw [plain] at failed
      cases failed
      exact obstructs_of_ofPlain plain
    | ok argument =>
      rw [plain] at failed
      rcases ofPlain_eq_ok plain with ⟨value, rfl⟩ | ⟨expression, rfl⟩
      · cases failed
      · exact .arithmetic (parsed_of_ofPlain plain) (Expression.obstructs_of_evaluate failed)

/-- An argument of any text over any sheet has a value, unless a formula in it stands too deep or an integer has
too many digits or is beyond all doubles. A text that is taken for arithmetic is an expression with an operator;
it is evaluated to a number, unless such an integer is among what it is computed from. -/
theorem resolve_obstacles (setting : Setting) (sheet : Sheet) (text : Text) (depth : Int) (keepsErrors : Bool) :
    (∀ failure, ((ofText text).resolve setting sheet.view depth keepsErrors).result = .error failure →
      Obstructs setting sheet.view depth keepsErrors (Text.strip text) failure ∧
      ((∃ reached, depth < reached ∧ setting.maxDepth ≤ reached ∧ failure = .tooDeep reached setting.maxDepth) ∨
        failure = .outOfRange ∨ failure = .unreadable)) ∧
    (isArithmetic (Token.ofText text) = .ok true →
      ∃ left operator right, Expression.ofText text = .ok (.binary left operator right) ∧
        let expression := Expression.binary left operator right
        (∃ number, expression.evaluate sheet.view = .ok (.number number)) ∨
        ∃ failure, expression.evaluate sheet.view = .error failure ∧ expression.Obstructs sheet.view failure ∧
          (failure = .outOfRange ∨ failure = .unreadable)) := by
  constructor
  · intro failure failed
    have obstructs := obstructs_of_ofTrimmed (Text.strip text) failed
    exact ⟨obstructs, obstructs.cause⟩
  · intro arithmetic
    obtain ⟨left, operator, right, parsed⟩ := exists_binary_of_isArithmetic arithmetic
    refine ⟨left, operator, right, parsed, ?_⟩
    intro expression
    cases evaluated : expression.evaluate sheet.view with
    | error failure =>
      have obstructs := Expression.obstructs_of_evaluate evaluated
      exact Or.inr ⟨failure, rfl, obstructs, obstructs.cause⟩
    | ok value =>
      rw [Expression.evaluate_eq_toNumber] at evaluated
      cases number : expression.toNumber sheet.view with
      | error failure =>
        rw [number] at evaluated
        cases evaluated
      | ok number' =>
        rw [number] at evaluated
        cases evaluated
        exact Or.inl ⟨number', rfl⟩

theorem resolve_obstacles_samples :
    let setting : Setting := ⟨1, ⟨0, 0, .utc⟩⟩
    let view := Expression.oversizedSheet.view
    (((ofText "LEN(1)".toList).resolve setting view 0 false).result = .error (.tooDeep 1 1) ∧
      Obstructs setting view 0 false "LEN(1)".toList (.tooDeep 1 1)) ∧
    (((ofText "A1>1.5".toList).resolve setting view 0 false).result = .error .outOfRange ∧
      Obstructs setting view 0 false "A1>1.5".toList .outOfRange) ∧
    (((ofText "B1*2".toList).resolve setting view 0 false).result = .error .unreadable ∧
      Obstructs setting view 0 false "B1*2".toList .unreadable) ∧
    isArithmetic (Token.ofText "A1*2".toList) = .ok true ∧
      ∃ left operator right, Expression.ofText "A1*2".toList = .ok (.binary left operator right) := by
  intro setting view
  have nested : ((ofText "LEN(1)".toList).resolve setting view 0 false).result = .error (.tooDeep 1 1) := by
    decide +kernel
  have compared : ((ofText "A1>1.5".toList).resolve setting view 0 false).result = .error .outOfRange := by
    decide +kernel
  have long : ((ofText "B1*2".toList).resolve setting view 0 false).result = .error .unreadable := by
    decide +kernel
  have arithmetic : isArithmetic (Token.ofText "A1*2".toList) = .ok true := by decide +kernel
  obtain ⟨left, operator, right, parsed, _⟩ := (resolve_obstacles setting Expression.oversizedSheet _ 0 false).2 arithmetic
  refine ⟨⟨nested, ?_⟩, ⟨compared, ?_⟩, ⟨long, ?_⟩, arithmetic, left, operator, right, parsed⟩
  · exact ((resolve_obstacles setting _ _ 0 false).1 _ nested).1
  · exact ((resolve_obstacles setting _ _ 0 false).1 _ compared).1
  · exact ((resolve_obstacles setting _ _ 0 false).1 _ long).1

end Argument

end Worksheet
