import Worksheet.Proofs.Formula.Chain
import Worksheet.Proofs.Value.Decidable

/-! What an expression comes to. Its tree is evaluated as the list of its operands is reduced: each term from left to
right, and then the terms from left to right. -/

namespace Worksheet

theorem Operator.text_inj {operator other : Operator} (same : operator.text = other.text) : operator = other := by
  revert same
  cases operator <;> cases other <;> decide

namespace Chain

def written (chain : Chain Token) : List Token :=
  chain.first :: chain.rest.flatMap fun pair => [pair.1.text, pair.2]

theorem pairs_inj {rest rest' : List (Operator × Token)}
    (same : (rest.flatMap fun pair => [pair.1.text, pair.2]) = rest'.flatMap fun pair => [pair.1.text, pair.2]) :
    rest = rest' := by
  induction rest generalizing rest' with
  | nil =>
    cases rest' with
    | nil => rfl
    | cons pair rest' => cases same
  | cons pair rest ih =>
    cases rest' with
    | nil => cases same
    | cons pair' rest' =>
      obtain ⟨operator, operand⟩ := pair
      obtain ⟨operator', operand'⟩ := pair'
      simp only [List.flatMap_cons, List.cons_append, List.nil_append, List.cons.injEq] at same
      obtain ⟨texts, rfl, later⟩ := same
      rw [Operator.text_inj texts, ih later]

theorem written_inj {chain other : Chain Token} (same : chain.written = other.written) : chain = other := by
  obtain ⟨first, rest⟩ := chain
  obtain ⟨first', rest'⟩ := other
  obtain ⟨rfl, pairs⟩ := List.cons.inj same
  exact congrArg (Chain.mk first) (pairs_inj pairs)

end Chain

theorem Token.readPrefix_of_number {token : Token} (known : kind token = .ok .number) :
    ∃ found, Number.readPrefix token = .ok (some found) := by
  unfold kind at known
  split at known
  · cases known
  split at known
  · cases known
  split at known
  · cases known
  split at known
  · cases known
  split at known
  · cases known
  split at known
  · cases known
  obtain ⟨found, read, role⟩ := bind_eq_ok.mp known
  cases found with
  | none => cases role
  | some number => exact ⟨number, read⟩

namespace Expression

def operandNumber (view : View) (token : Token) : Except Failure Number := do
  match ← Token.kind token with
  | .number => return (← Number.readPrefix token).getD Number.zero
  | .quoted => (Value.text (Token.unquote token)).toOperand
  | .cell =>
    match ← Address.readCell token with
    | some position => cellNumber (← view position)
    | none => return Number.zero
  | _ => (Value.text token).toOperand

def toNumber (view : View) (expression : Expression) : Except Failure Number := do
  (← expression.evaluate view).toOperand

theorem evaluate_binary (view : View) (left right : Expression) (operator : Operator) :
    (binary left operator right).evaluate view =
      left.toNumber view >>= fun leftNumber => right.toNumber view >>= fun rightNumber =>
        (operator.apply leftNumber rightNumber).map Value.number := by
  simp only [toNumber, evaluate, bind_assoc]
  rfl

theorem toNumber_binary (view : View) (left right : Expression) (operator : Operator) :
    (binary left operator right).toNumber view =
      left.toNumber view >>= fun leftNumber => right.toNumber view >>= fun rightNumber =>
        operator.apply leftNumber rightNumber := by
  rw [toNumber, evaluate_binary, bind_assoc]
  congr 1
  funext leftNumber
  rw [bind_assoc]
  congr 1
  funext rightNumber
  cases operator.apply leftNumber rightNumber with
  | error failure => rfl
  | ok number => rfl

theorem evaluate_eq_toNumber (view : View) (left right : Expression) (operator : Operator) :
    (binary left operator right).evaluate view = ((binary left operator right).toNumber view).map Value.number := by
  rw [toNumber_binary, evaluate_binary]
  cases left.toNumber view with
  | error failure => rfl
  | ok leftNumber =>
    cases right.toNumber view with
    | error failure => rfl
    | ok rightNumber => rfl

theorem Operand.toNumber_eq {token : Token} {expression : Expression} (operand : Operand token expression)
    (view : View) : expression.toNumber view = operandNumber view token := by
  cases operand with
  | number kind =>
    obtain ⟨found, read⟩ := Token.readPrefix_of_number kind
    rw [operandNumber, kind, toNumber, evaluate, read]
    rfl
  | quoted kind =>
    rw [operandNumber, kind]
    rfl
  | cell kind =>
    rw [operandNumber, kind, toNumber, evaluate]
    change _ = Address.readCell token >>= fun found => _
    rw [bind_assoc]
    congr 1
    funext found
    cases found with
    | none => rfl
    | some position =>
      change (view position >>= fun value => cellNumber value >>= fun found => pure (Value.number found))
        >>= Value.toOperand = view position >>= cellNumber
      simp only [bind_assoc, pure_bind]
      congr 1
      funext value
      exact bind_pure (cellNumber value)
  | word kind =>
    rw [operandNumber, kind]
    rfl

theorem Product.chain {tokens : List Token} {expression : Expression} (product : Product tokens expression)
    (view : View) :
    ∃ chain : Chain Token, chain.written = tokens ∧ (∀ pair ∈ chain.rest, pair.1.isSign = false) ∧
      expression.toNumber view = chain.run (operandNumber view) := by
  induction product with
  | @operand token expression operand =>
    refine ⟨⟨token, []⟩, rfl, nofun, ?_⟩
    rw [operand.toNumber_eq]
    exact (bind_pure _).symm
  | @scale tokens token left right operator product scale operand ih =>
    obtain ⟨chain, written, scales, number⟩ := ih
    refine ⟨⟨chain.first, chain.rest ++ [(operator, token)]⟩, ?_, ?_, ?_⟩
    · rw [← written]
      simp [Chain.written]
    · intro pair member
      rcases List.mem_append.mp member with before | last
      · exact scales pair before
      · rw [List.mem_singleton.mp last]
        cases operator with
        | multiply => rfl
        | divide => rfl
        | add => cases scale
        | subtract => cases scale
    · rw [toNumber_binary, number, operand.toNumber_eq, Chain.run_snoc]

theorem Sum.chain {tokens : List Token} {expression : Expression} (sum : Sum tokens expression) (view : View) :
    ∃ chain : Chain Token, chain.written = tokens ∧
      expression.toNumber view = chain.terms.run (Chain.run (operandNumber view)) := by
  induction sum with
  | product product =>
    obtain ⟨chain, written, scales, number⟩ := product.chain view
    refine ⟨chain, written, ?_⟩
    rw [number, Chain.terms, Chain.cut_of_scales scales]
    exact (bind_pure _).symm
  | @sign tokens later left right operator sum sign product ih =>
    obtain ⟨chain, written, total⟩ := ih
    obtain ⟨term, ending, scales, number⟩ := product.chain view
    refine ⟨⟨chain.first, chain.rest ++ (operator, term.first) :: term.rest⟩, ?_, ?_⟩
    · rw [← written, ← ending]
      simp [Chain.written]
    · have terms : Chain.terms ⟨chain.first, chain.rest ++ (operator, term.first) :: term.rest⟩ =
          ⟨chain.terms.first, chain.terms.rest ++ [(operator, term)]⟩ := by
        rw [Chain.terms, Chain.cut_append sign, Chain.cut_of_scales scales]
        rfl
      rw [toNumber_binary, total, number, terms, Chain.run_snoc]

theorem evaluate_onlyFails {view : View} (cells : ∀ position, OnlyFails [.unreadable] (view position))
    (expression : Expression) : OnlyFails [.outOfRange, .unreadable] (expression.evaluate view) := by
  induction expression with
  | number token =>
    refine ((Number.readPrefix_onlyFails token).mono (by simp)).bind fun found _ => ?_
    cases found with
    | none => exact .ok _
    | some number => exact .ok _
  | quoted token => exact .ok _
  | cell token =>
    refine ((Address.readCell_onlyFails token).mono (by simp)).bind fun found _ => ?_
    cases found with
    | none => exact .ok _
    | some position =>
      refine ((cells position).mono (by simp)).bind fun value _ => ?_
      exact ((cellNumber_onlyFails value).mono (by simp)).bind fun _ _ => .ok _
  | word token => exact .ok _
  | binary left operator right leftFails rightFails =>
    have operand {expression : Expression}
        (only : OnlyFails [.outOfRange, .unreadable] (expression.evaluate view)) :
        OnlyFails [.outOfRange, .unreadable] (expression.toNumber view) :=
      only.bind fun value _ => value.toOperand_onlyFails.mono (by simp)
    rw [evaluate_binary]
    refine (operand leftFails).bind fun leftNumber _ => (operand rightFails).bind fun rightNumber _ => ?_
    exact ((operator.apply_onlyFails leftNumber rightNumber).mono (by simp)).map Value.number

/-- A text with an operator comes to what its operands come to when all of them are made numbers, every term
is reduced and the terms are combined, or to no number where that comes to none. The first failure from left
to right is the one that is reported, so it is the failure of the passes unless an operand is no number. -/
theorem evaluate_twoPass (sheet : Sheet) {text : Text} {left right : Expression} {operator : Operator}
    (parsed : ofText text = .ok (.binary left operator right)) :
    (∃ chain : Chain Token, chain.written = Token.foldCalls (Token.ofText text)) ∧
    ∀ chain : Chain Token, chain.written = Token.foldCalls (Token.ofText text) →
      let outcome := ofText text >>= evaluate sheet.view
      let number := operandNumber sheet.view
      outcome.toOption = ((chain.twoPass number).map Value.number).toOption ∧
      outcome = (chain.terms.run (Chain.run number)).map Value.number ∧
      ((∃ numbers, chain.mapM number = .ok numbers) → outcome = (chain.twoPass number).map Value.number) ∧
      OnlyFails [.outOfRange, .unreadable] outcome ∧
      ∀ integers : Chain Int,
        chain.Related (fun token value => number token = .ok (.integer value)) integers →
        (∀ pair ∈ integers.rest, pair.1 ≠ .divide) → outcome = .ok (.number (.integer integers.value)) := by
  obtain ⟨chain, written, total⟩ := (ofTokens_eq_ok.mp parsed).chain sheet.view
  refine ⟨⟨chain, written⟩, fun other same => ?_⟩
  obtain rfl : other = chain := Chain.written_inj (same.trans written.symm)
  intro outcome number
  have evaluated : outcome = (other.terms.run (Chain.run number)).map Value.number := by
    simp only [outcome, parsed]
    change evaluate sheet.view (binary left operator right) = _
    rw [evaluate_eq_toNumber, total]
  refine ⟨?_, evaluated, ?_, ?_, ?_⟩
  · have same := Chain.toOption_twoPass number other
    rw [evaluated]
    cases run : other.terms.run (Chain.run number) with
    | ok result =>
      cases passes : other.twoPass number with
      | ok result' => rw [run, passes] at same; cases same; rfl
      | error failure => rw [run, passes] at same; cases same
    | error failure =>
      cases passes : other.twoPass number with
      | ok result' => rw [run, passes] at same; cases same
      | error failure => rfl
  · rintro ⟨numbers, converted⟩
    rw [evaluated, Chain.twoPass_of_mapM converted]
  · simp only [outcome, parsed]
    exact evaluate_onlyFails sheet.view_onlyFails _
  · intro integers related undivided
    rw [evaluated, Chain.run_terms_congr related, Chain.run_integers undivided]
    rfl

def product : Chain Token :=
  ⟨['2'], [(.multiply, ['A', '1']), (.subtract, ['B', '1'])]⟩

def productSheet : Sheet :=
  [("0,0".toList, .cell { value := .integer 5 }), ("0,1".toList, .cell { value := .text ['3'] })]

theorem evaluate_twoPass_sample :
    product.written = Token.foldCalls (Token.ofText "2*A1-B1".toList) ∧
      (ofText "2*A1-B1".toList >>= evaluate productSheet.view) = .ok (.number (.integer 7)) := by
  have written : product.written = Token.foldCalls (Token.ofText "2*A1-B1".toList) := by decide +kernel
  have parsed : ofText "2*A1-B1".toList = .ok
      (.binary (.binary (.number ['2']) .multiply (.cell ['A', '1'])) .subtract (.cell ['B', '1'])) := by
    rw [ofText, ← written]
    rfl
  have integers := ((evaluate_twoPass productSheet parsed).2 product written).2.2.2.2
    ⟨2, [(.multiply, 5), (.subtract, 3)]⟩
  refine ⟨written, integers ⟨by decide +kernel, ?_⟩ (by decide)⟩
  exact .cons ⟨rfl, by decide +kernel⟩ (.cons ⟨rfl, by decide +kernel⟩ .nil)

def oversizedSheet : Sheet :=
  [("0,0".toList, .cell { value := .integer (Nat.pow 10 400) }),
    ("0,1".toList, .cell { value := .text (List.replicate 4301 '1') })]

def oversized : Chain Token :=
  ⟨['A', '1'], [(.multiply, "1.5".toList), (.add, ['B', '1'])]⟩

theorem evaluate_ne_twoPass :
    oversized.written = Token.foldCalls (Token.ofText "A1*1.5+B1".toList) ∧
      (ofText "A1*1.5+B1".toList >>= evaluate oversizedSheet.view) = .error .outOfRange ∧
      oversized.twoPass (operandNumber oversizedSheet.view) = .error .unreadable := by
  refine ⟨by decide +kernel, by decide +kernel, by decide +kernel⟩

end Expression

end Worksheet
