import Worksheet.Proofs.Formula.Frame
import Worksheet.Proofs.Formula.Literal
import Worksheet.Proofs.Formula.Resolution

/-! Failures among the arguments of the functions that take error codes. The failure of a nested formula reaches them
as a code; the failure of any other argument is one of the whole call, and so is a range where a single value is asked
for, since the values of ranges are counted one by one. -/

namespace Worksheet

namespace Argument

def isNested : Argument → Bool
  | call _ _ _ => true
  | formula _ _ => true
  | _ => false

theorem not_isNested_ofResult {α : Type} {read : α → Argument} {result : Except Failure α}
    (flat : ∀ value, result = .ok value → (read value).isNested = false) :
    (ofResult read result).isNested = false := by
  cases result with
  | ok value => exact flat value rfl
  | error failure => rfl

theorem not_isNested_ofPlain (text : Text) : (ofResult id (ofPlain text)).isNested = false := by
  refine not_isNested_ofResult fun argument plain => ?_
  rcases ofPlain_eq_ok plain with ⟨value, rfl⟩ | ⟨expression, rfl⟩
  · rfl
  · rfl

theorem resolve_nested (setting : Setting) (view : View) (depth : Int) (keepsErrors : Bool) {text : Text}
    (stripped : Text.strip text = text) (nested : (ofTrimmed text).isNested = true) :
    (ofTrimmed text).resolve setting view depth keepsErrors =
      evaluateAt setting view (depth + 1) ('=' :: text) >>= fun answer => pure (answer.asArgument keepsErrors) := by
  induction text using ofTrimmed_induction with
  | range text parts found =>
    rw [ofSpanParts, not_isNested_ofResult fun _ _ => rfl] at nested
    cases nested
  | cell text letters digits found =>
    rw [not_isNested_ofResult fun _ _ => rfl] at nested
    cases nested
  | comparison text found equal left right => cases nested
  | call text name inner found pieces =>
    have parsed : Formula.ofText ('=' :: text) = .call name ((Scan.splitArguments inner).map ofText) := by
      simp only [Formula.ofText, stripped, found]
    rw [evaluateAt, parsed, resolve, Formula.answer]
  | formula text starts none =>
    have nonempty : text.isEmpty = false := by
      cases text with
      | nil => cases starts
      | cons _ _ => rfl
    have parsed : Formula.ofText ('=' :: text) = .expression (Expression.ofText text) := by
      simp only [Formula.ofText, stripped, none, nonempty, Bool.false_eq_true, ↓reduceIte]
    rw [evaluateAt, parsed, resolve, Formula.answer]
  | plain text =>
    rw [not_isNested_ofPlain] at nested
    cases nested

end Argument

/-! ## Calls of functions that take error codes -/

namespace Piece

def resolved (setting : Setting) (view : View) (piece : Piece) : Outcome Value :=
  piece.argument.resolve setting view 0 true

/-- The piece comes to a single value; a list counts as the values in it. -/
def Gives (setting : Setting) (view : View) (piece : Piece) (value : Value) : Prop :=
  ∃ whole, (piece.resolved setting view).result = .ok whole ∧ whole.leaves = [value]

end Piece

variable {setting : Setting} {view : View}

namespace CallFrame

def ofName {builtin : Builtin} {name : String} (named : name.toList ≠ [])
    (letters : ∀ char ∈ name.toList, Text.isEnglishLetter char = true)
    (found : Builtin.find? (Text.upper name.toList) = some builtin) : CallFrame builtin :=
  ⟨[], name.toList, [], [], named, letters, Text.blank_nil, Text.blank_nil, Text.blank_nil, found⟩

def choose : CallFrame (.errorAware "IF" Builtin.choose) :=
  @ofName _ "IF" (List.cons_ne_nil _ _) (List.all_eq_true.mp (by decide)) rfl

def ifError : CallFrame (.errorAware "IFERROR" Builtin.ifError) :=
  @ofName _ "IFERROR" (List.cons_ne_nil _ _) (List.all_eq_true.mp (by decide)) rfl

theorem source_choose (pieces : List Piece) : choose.source pieces = '=' :: Piece.callText "IF".toList [] pieces :=
  congrArg (List.cons '=') (List.append_nil _)

theorem source_ifError (pieces : List Piece) :
    ifError.source pieces = '=' :: Piece.callText "IFERROR".toList [] pieces :=
  congrArg (List.cons '=') (List.append_nil _)

end CallFrame

/-! ## IFERROR -/

theorem ifError_pair (value fallback : Value) :
    Builtin.ifError [value, fallback] = .ok (if value.isError then fallback else value) :=
  rfl

theorem ifError_of_length {values : List Value} (wrong : values.length ≠ 2) :
    ∃ failure, Builtin.ifError values = .error failure := by
  have outside : ¬(2 ≤ values.length ∧ values.length ≤ 2) := by omega
  obtain ⟨failure, refused⟩ := Builtin.require_of_outside "IFERROR" outside
  exact ⟨failure, by rw [Builtin.ifError, refused]; rfl⟩

theorem ifError_answers {value fallback : Value} (single : fallback.isError = false) :
    Answer.ofValue (if value.isError then fallback else value)
      = .value (if value.isError then fallback else value) := by
  cases isError : value.isError with
  | true => cases fallback <;> first | rfl | cases single
  | false => cases value <;> first | rfl | cases isError

theorem result_ifError (positive : 0 < setting.maxDepth) (x : Piece) {literal : Piece} {fallback : Value}
    (isLiteral : Argument.IsLiteral literal.text fallback) :
    (evaluate setting view ('=' :: Piece.callText "IFERROR".toList [] [x, literal])).result =
      .ok (Answer.ofResult
        ((x.resolved setting view).result >>= fun whole => Builtin.ifError (whole.leaves ++ [fallback]))) := by
  have visible : literal.isBlank = false := isLiteral.visible
  have arguments : Piece.arguments [x, literal] = [x.argument, .constant fallback] := by
    rw [Piece.arguments_cons_cons, Piece.arguments_singleton, visible, ← isLiteral.ofText_eq]
    rfl
  rw [← CallFrame.source_ifError, CallFrame.ifError.result_of_acceptsErrors positive rfl, arguments]
  congr 2
  rw [Argument.result_resolveAll_cons]
  change (x.resolved setting view).result >>= _ >>= _ = _
  cases (x.resolved setting view).result with
  | error failure => rfl
  | ok whole =>
    change Builtin.ifError (whole.leaves ++ (fallback.leaves ++ [])) = _
    rw [isLiteral.leaves_eq]
    rfl

theorem length_eq_one_of_leaves {whole fallback : Value} (pair : (whole.leaves ++ [fallback]).length = 2) :
    ∃ value, whole.leaves = [value] := by
  rw [List.length_append, List.length_singleton] at pair
  exact List.length_eq_one_iff.mp (by omega)

theorem answer_ifError (positive : 0 < setting.maxDepth) (x : Piece) {literal : Piece} {fallback : Value}
    (isLiteral : Argument.IsLiteral literal.text fallback) :
    (∀ value, x.Gives setting view value →
      (evaluate setting view ('=' :: Piece.callText "IFERROR".toList [] [x, literal])).result =
        .ok (.value (if value.isError then fallback else value))) ∧
    ((∀ value, ¬x.Gives setting view value) →
      (evaluate setting view ('=' :: Piece.callText "IFERROR".toList [] [x, literal])).result =
        .ok (.error .failure)) := by
  rw [result_ifError positive x isLiteral]
  constructor
  · rintro value ⟨whole, resolved, leaves⟩
    rw [resolved]
    change Except.ok (Answer.ofResult (Builtin.ifError (whole.leaves ++ [fallback]))) = _
    rw [leaves, List.singleton_append, ifError_pair, Answer.ofResult, ifError_answers isLiteral.not_isError]
  · intro none
    cases resolved : (x.resolved setting view).result with
    | error failure => rfl
    | ok whole =>
      change Except.ok (Answer.ofResult (Builtin.ifError (whole.leaves ++ [fallback]))) = _
      by_cases pair : (whole.leaves ++ [fallback]).length = 2
      · obtain ⟨value, leaves⟩ := length_eq_one_of_leaves pair
        exact absurd ⟨whole, resolved, leaves⟩ (none value)
      · obtain ⟨failure, refused⟩ := ifError_of_length pair
        rw [refused]
        rfl

/-! ## IF -/

def Value.Decides (condition : Value) (truth : Bool) : Prop :=
  condition.isError = false ∧ condition.toTruth = .ok truth

theorem require_choose {condition first : Value} {rest : List Value} (few : rest.length ≤ 1) :
    Builtin.require "IF" (condition :: first :: rest) 2 3 = .ok () := by
  apply Builtin.require_of_within
  · simp only [List.length_cons]
    omega
  · simp only [List.length_cons]
    omega

theorem choose_error {first : Value} {rest : List Value} (few : rest.length ≤ 1) (code : ErrorCode) :
    Builtin.choose (.error code :: first :: rest) = .ok (.error code) := by
  rw [Builtin.choose, require_choose few]
  rfl

theorem choose_cons {condition first : Value} {rest : List Value} (few : rest.length ≤ 1)
    (plain : condition.isError = false) :
    Builtin.choose (condition :: first :: rest) = condition.toTruth >>= fun truth =>
      .ok (Builtin.zeroIfMissing (if truth then first else Builtin.argument rest 0)) := by
  have branches : Builtin.choose (condition :: first :: rest) = condition.toTruth >>= fun truth =>
      if truth then .ok (Builtin.zeroIfMissing first)
      else .ok (Builtin.zeroIfMissing (Builtin.argument rest 0)) := by
    rw [Builtin.choose, require_choose few]
    cases condition with
    | error code => cases plain
    | _ => rfl
  rw [branches]
  congr 1
  funext truth
  cases truth with
  | true => rfl
  | false => rfl

theorem choose_first {condition first : Value} {rest others : List Value} (few : rest.length ≤ 1)
    (fewOthers : others.length ≤ 1) (chosen : ¬condition.Decides false) :
    Builtin.choose (condition :: first :: rest) = Builtin.choose (condition :: first :: others) := by
  cases isError : condition.isError with
  | true =>
    cases condition with
    | error code => rw [choose_error few, choose_error fewOthers]
    | _ => cases isError
  | false =>
    rw [choose_cons few isError, choose_cons fewOthers isError]
    cases truth : condition.toTruth with
    | error failure => rfl
    | ok first =>
      cases first with
      | true => rfl
      | false => exact absurd ⟨isError, truth⟩ chosen

theorem choose_second {condition first other : Value} {rest : List Value} (few : rest.length ≤ 1)
    (chosen : ¬condition.Decides true) :
    Builtin.choose (condition :: first :: rest) = Builtin.choose (condition :: other :: rest) := by
  cases isError : condition.isError with
  | true =>
    cases condition with
    | error code => rw [choose_error few, choose_error few]
    | _ => cases isError
  | false =>
    rw [choose_cons few isError, choose_cons few isError]
    cases truth : condition.toTruth with
    | error failure => rfl
    | ok second =>
      cases second with
      | true => exact absurd ⟨isError, truth⟩ chosen
      | false => rfl

namespace Piece

/-- Unless it fails, the piece comes to a single value. -/
def Single (setting : Setting) (view : View) (piece : Piece) : Prop :=
  ∀ whole, (piece.resolved setting view).result = .ok whole → ∃ value, whole.leaves = [value]

def lastLeaves (setting : Setting) (view : View) (piece : Piece) : Except Failure (List Value) :=
  if piece.isBlank then .ok [] else (piece.resolved setting view).result >>= fun whole => .ok whole.leaves

theorem Single.length_le_one {piece : Piece} (single : piece.Single setting view) {values : List Value}
    (last : piece.lastLeaves setting view = .ok values) : values.length ≤ 1 := by
  unfold lastLeaves at last
  split at last
  · cases last
    exact Nat.zero_le 1
  · obtain ⟨whole, resolved, equal⟩ := bind_eq_ok.mp last
    obtain ⟨value, leaves⟩ := single whole resolved
    cases equal
    rw [leaves]
    exact Nat.le_refl 1

theorem Gives.single {piece : Piece} {value : Value} (gives : piece.Gives setting view value) :
    piece.Single setting view := by
  obtain ⟨whole, resolved, leaves⟩ := gives
  intro other same
  rw [resolved] at same
  cases same
  exact ⟨value, leaves⟩

theorem Gives.unique {piece : Piece} {value other : Value} (gives : piece.Gives setting view value)
    (same : piece.Gives setting view other) : value = other := by
  obtain ⟨whole, resolved, leaves⟩ := gives
  obtain ⟨otherWhole, otherResolved, otherLeaves⟩ := same
  rw [resolved] at otherResolved
  cases otherResolved
  rw [leaves] at otherLeaves
  exact (List.cons.inj otherLeaves).1

theorem Gives.exists_lastLeaves {piece : Piece} {value : Value} (gives : piece.Gives setting view value) :
    ∃ values, piece.lastLeaves setting view = .ok values := by
  obtain ⟨whole, resolved, leaves⟩ := gives
  unfold lastLeaves
  split
  · exact ⟨_, rfl⟩
  · exact ⟨whole.leaves, by rw [resolved]; rfl⟩

end Piece

theorem result_if (positive : 0 < setting.maxDepth) (condition first second : Piece) :
    (evaluate setting view ('=' :: Piece.callText "IF".toList [] [condition, first, second])).result =
      .ok (Answer.ofResult ((condition.resolved setting view).result >>= fun whole =>
        (first.resolved setting view).result >>= fun firstWhole =>
          second.lastLeaves setting view >>= fun values =>
            Builtin.choose (whole.leaves ++ (firstWhole.leaves ++ values)))) := by
  rw [← CallFrame.source_choose, CallFrame.choose.result_of_acceptsErrors positive rfl, Piece.arguments_cons_cons,
    Piece.arguments_cons_cons, Piece.arguments_singleton]
  congr 2
  rw [Argument.result_resolveAll_cons, Argument.result_resolveAll_cons, Piece.lastLeaves]
  change (condition.resolved setting view).result >>= _ >>= _ = _
  cases (condition.resolved setting view).result with
  | error failure => rfl
  | ok whole =>
    change (first.resolved setting view).result >>= _ >>= _ >>= _ = (first.resolved setting view).result >>= _
    cases (first.resolved setting view).result with
    | error failure => rfl
    | ok firstWhole =>
      cases second.isBlank with
      | true => rfl
      | false =>
        rw [if_neg (by simp), if_neg (by simp), Argument.result_resolveAll_cons]
        change (second.resolved setting view).result >>= _ >>= _ >>= _ >>= _ = _
        cases (second.resolved setting view).result with
        | error failure => rfl
        | ok secondWhole =>
          change Builtin.choose (whole.leaves ++ (firstWhole.leaves ++ (secondWhole.leaves ++ []))) = _
          rw [List.append_nil]
          rfl

theorem if_unchosen_second (positive : 0 < setting.maxDepth) {condition first second other : Piece}
    (conditionSingle : condition.Single setting view) (firstSingle : first.Single setting view)
    {value otherValue : Value} (gives : second.Gives setting view value)
    (otherGives : other.Gives setting view otherValue)
    (chosen : ∀ value, condition.Gives setting view value → ¬value.Decides false) :
    (evaluate setting view ('=' :: Piece.callText "IF".toList [] [condition, first, other])).result =
      (evaluate setting view ('=' :: Piece.callText "IF".toList [] [condition, first, second])).result := by
  rw [result_if positive, result_if positive]
  cases resolved : (condition.resolved setting view).result with
  | error failure => rfl
  | ok whole =>
    cases firstResolved : (first.resolved setting view).result with
    | error failure => rfl
    | ok firstWhole =>
      obtain ⟨value, leaves⟩ := conditionSingle whole resolved
      obtain ⟨firstValue, firstLeaves⟩ := firstSingle firstWhole firstResolved
      obtain ⟨values, last⟩ := gives.exists_lastLeaves
      obtain ⟨others, otherLast⟩ := otherGives.exists_lastLeaves
      rw [last, otherLast]
      change Except.ok (Answer.ofResult (Builtin.choose (whole.leaves ++ (firstWhole.leaves ++ others)))) =
        .ok (Answer.ofResult (Builtin.choose (whole.leaves ++ (firstWhole.leaves ++ values))))
      rw [leaves, firstLeaves]
      have same := @choose_first value firstValue _ _ (otherGives.single.length_le_one otherLast)
        (gives.single.length_le_one last) (chosen value ⟨whole, resolved, leaves⟩)
      exact congrArg (Except.ok ∘ Answer.ofResult) same

theorem if_unchosen_first (positive : 0 < setting.maxDepth) {condition first second other : Piece}
    (conditionSingle : condition.Single setting view) (secondSingle : second.Single setting view)
    {firstValue otherValue : Value} (gives : first.Gives setting view firstValue)
    (otherGives : other.Gives setting view otherValue)
    (chosen : ∀ value, condition.Gives setting view value → ¬value.Decides true) :
    (evaluate setting view ('=' :: Piece.callText "IF".toList [] [condition, other, second])).result =
      (evaluate setting view ('=' :: Piece.callText "IF".toList [] [condition, first, second])).result := by
  obtain ⟨firstWhole, firstResolved, firstLeaves⟩ := gives
  obtain ⟨otherWhole, otherResolved, otherLeaves⟩ := otherGives
  rw [result_if positive, result_if positive, firstResolved, otherResolved]
  cases resolved : (condition.resolved setting view).result with
  | error failure => rfl
  | ok whole =>
    cases last : second.lastLeaves setting view with
    | error failure => rfl
    | ok values =>
      obtain ⟨value, leaves⟩ := conditionSingle whole resolved
      change Except.ok (Answer.ofResult (Builtin.choose (whole.leaves ++ (otherWhole.leaves ++ values)))) =
        .ok (Answer.ofResult (Builtin.choose (whole.leaves ++ (firstWhole.leaves ++ values))))
      rw [leaves, firstLeaves, otherLeaves]
      have same := @choose_second value otherValue firstValue _ (secondSingle.length_le_one last)
        (chosen _ ⟨whole, resolved, leaves⟩)
      exact congrArg (Except.ok ∘ Answer.ofResult) same

/-! ## What is contained -/

namespace Piece

/-- No formula inside the piece stands at the limit of the depth. -/
def Below (setting : Setting) (view : View) (piece : Piece) : Prop :=
  ∀ reached ∈ piece.argument.entered setting view 0 true, reached < setting.maxDepth

instance (setting : Setting) (view : View) (piece : Piece) : Decidable (piece.Below setting view) :=
  inferInstanceAs (Decidable (∀ reached ∈ piece.argument.entered setting view 0 true, reached < setting.maxDepth))

theorem below_of_count {piece : Piece} (few : (piece.text.count '(' : Int) < setting.maxDepth) :
    piece.Below setting view := by
  intro reached member
  have deepest := Argument.entered_le setting view 0 true piece.argument member
  have height := Argument.height_le_count (Text.strip piece.text)
  have inside := (Text.strip_isInfix piece.text).sublist.count_le '('
  change piece.argument.height ≤ _ at height
  omega

theorem resolved_onlyFails {sheet : Sheet} {piece : Piece} (below : piece.Below setting sheet.view) :
    OnlyFails [.outOfRange, .unreadable] (piece.resolved setting sheet.view).result :=
  Argument.settled_ofTrimmed sheet.view_onlyFails (Text.strip piece.text) 0 true below

theorem result_nested {sheet : Sheet} {piece : Piece} (below : piece.Below setting sheet.view)
    (nested : piece.argument.isNested = true) :
    ∃ own, (evaluateAt setting sheet.view 1 ('=' :: Text.strip piece.text)).result = .ok own ∧
      (piece.resolved setting sheet.view).result = .ok (own.asArgument true) := by
  have alone := Argument.resolve_nested setting sheet.view 0 true (Text.strip_strip piece.text) nested
  have resolved : (piece.resolved setting sheet.view).result =
      (evaluateAt setting sheet.view 1 ('=' :: Text.strip piece.text)).result >>= fun own =>
        .ok (own.asArgument true) := by
    rw [Piece.resolved, Piece.argument, Argument.ofText, alone, Outcome.result_bind]
    rfl
  rcases Formula.result_answer_or_isDepth setting sheet.view 1 ('=' :: Text.strip piece.text) _ with
    ⟨own, answered⟩ | ⟨failure, failed, deep⟩
  · rw [evaluateAt, answered] at resolved
    exact ⟨own, answered, resolved⟩
  · rw [evaluateAt, failed] at resolved
    have other := Shallow.of_onlyFails (resolved_onlyFails below) (by decide) failure resolved
    rw [deep] at other
    cases other

end Piece

theorem answer_of_fails {name : String} (aware : name ∈ ["IF", "IFERROR"]) {pieces : List Piece} {piece : Piece}
    (member : piece ∈ pieces) {failure : Failure} (fails : (piece.resolved setting view).result = .error failure) :
    (evaluate setting view ('=' :: Piece.callText name.toList [] pieces)).result = .ok (.error .failure) := by
  rcases List.mem_cons.mp aware with rfl | aware
  · rw [← CallFrame.source_choose]
    exact CallFrame.choose.result_of_failed member fails
  · obtain rfl := List.mem_singleton.mp aware
    rw [← CallFrame.source_ifError]
    exact CallFrame.ifError.result_of_failed member fails

namespace Piece

def holds : Piece := .ofWord "1=1".toList (by decide)

def two : Piece := .ofWord ['2'] (by decide)

def three : Piece := .ofWord ['3'] (by decide)

def fallback : Piece := .ofWord "'none'".toList (by decide)

def incomplete : Piece := .ofWord "POWER(2)".toList (by decide)

end Piece

def Sheet.beyond : Sheet :=
  [("0,0".toList, .cell { value := .integer (Nat.pow 10 400) }), ("1,0".toList, .cell { value := .integer 1 })]

def Piece.product : Piece := .ofWord "A1*1.5".toList (by decide)

def Piece.column : Piece := .ofWord "A1:A2".toList (by decide)

end Worksheet
