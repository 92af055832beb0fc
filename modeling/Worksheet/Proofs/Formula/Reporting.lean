import Worksheet.Proofs.Builtin.Codes
import Worksheet.Proofs.Formula.Nesting
import Worksheet.Proofs.Formula.Volatile
import Worksheet.Proofs.Sheet.Basic
import Worksheet.Proofs.Value.Decidable

/-! No failure is silent. An answer of `#NAME?` or `#ERROR!` has its event in the log, however the code went through
the functions on its way. -/

namespace Worksheet

def Reported (events : List Event) : ErrorCode → Prop
  | .name => ∃ event ∈ events, event.kind = .formulaUnknownFunction
  | .failure => ∃ event ∈ events, event.kind = .formulaFailed ∨ event.kind = .formulaDepthExceeded
  | _ => True

theorem reported_of_ordinary (events : List Event) (code : ErrorCode) (ordinary : code.isOrdinary = true) :
    Reported events code := by
  cases code with
  | name => cases ordinary
  | failure => cases ordinary
  | reference => trivial
  | value => trivial
  | notAvailable => trivial

theorem Reported.append {events : List Event} (later : List Event) (code : ErrorCode)
    (reported : Reported events code) : Reported (events ++ later) code := by
  cases code with
  | name =>
    obtain ⟨event, member, kind⟩ := reported
    exact ⟨event, List.mem_append_left later member, kind⟩
  | failure =>
    obtain ⟨event, member, kind⟩ := reported
    exact ⟨event, List.mem_append_left later member, kind⟩
  | reference => trivial
  | value => trivial
  | notAvailable => trivial

def Answer.Within (permitted : ErrorCode → Prop) : Answer → Prop
  | value found => found.Within permitted
  | error code => permitted code

theorem Answer.within_ofValue {permitted : ErrorCode → Prop} {value : Value} (within : value.Within permitted) :
    (Answer.ofValue value).Within permitted := by
  cases value with
  | error code => exact Value.within_error.mp within
  | _ => exact within

theorem Answer.within_asArgument {permitted : ErrorCode → Prop} {answer : Answer} (within : answer.Within permitted)
    (keepsErrors : Bool) : (answer.asArgument keepsErrors).Within permitted := by
  cases answer with
  | value found => exact within
  | error code =>
    cases keepsErrors with
    | true => exact Value.within_error.mpr within
    | false => exact .bare rfl

namespace Outcome

variable {α β : Type} {earlier : List Event}

/-- The codes in a result have their events, here or among the earlier ones. -/
def Accounts (earlier : List Event) (within : (ErrorCode → Prop) → α → Prop) (outcome : Outcome α) : Prop :=
  ∀ value, outcome.result = .ok value → within (Reported (earlier ++ outcome.events)) value

theorem Accounts.fail (within : (ErrorCode → Prop) → α → Prop) (failure : Failure) :
    (Outcome.fail failure).Accounts earlier within :=
  nofun

theorem Accounts.succeed {within : (ErrorCode → Prop) → α → Prop} {value : α}
    (holds : within (Reported earlier) value) : (Outcome.succeed value).Accounts earlier within := by
  rintro _ ⟨⟩
  rw [events_succeed, List.append_nil]
  exact holds

theorem Accounts.ofExcept {within : (ErrorCode → Prop) → α → Prop} {result : Except Failure α}
    (holds : ∀ value, result = .ok value → within (Reported earlier) value) :
    (Outcome.ofExcept result).Accounts earlier within := by
  intro value ok
  rw [events_ofExcept, List.append_nil]
  exact holds value ok

theorem Accounts.bind {within : (ErrorCode → Prop) → α → Prop} {within' : (ErrorCode → Prop) → β → Prop}
    {first : Outcome α} {next : α → Outcome β} (before : first.Accounts earlier within)
    (after : ∀ value, within (Reported (earlier ++ first.events)) value →
      (next value).Accounts (earlier ++ first.events) within') : (first >>= next).Accounts earlier within' := by
  intro final ok
  obtain ⟨value, result, later⟩ := result_bind_eq_ok.mp ok
  rw [bind_of_ok result, ← List.append_assoc]
  exact after value (before value result) final later

theorem Accounts.recover {within : (ErrorCode → Prop) → α → Prop} {first : Outcome α}
    {handle : Failure → Outcome α} (before : first.Accounts earlier within)
    (after : ∀ failure, (handle failure).Accounts (earlier ++ first.events) within) :
    (first.recover handle).Accounts earlier within := by
  cases result : first.result with
  | ok value =>
    rw [recover_of_ok result]
    exact before
  | error failure =>
    rw [recover_of_error result]
    intro value ok
    rw [← List.append_assoc]
    exact after failure value ok

end Outcome

/-! ## Calls -/

namespace Formula

theorem accounts_apply {earlier : List Event} (ambient : Ambient) (name : Text) {values : List Value}
    (within : Value.AllWithin (Reported earlier) values) :
    (apply ambient name values).Accounts earlier Answer.Within := by
  unfold apply
  split
  next builtin found =>
    refine .ofExcept fun answer ok => ?_
    have arguments : Value.AllWithin (Reported earlier)
        (if builtin.flattens then Value.flatten values else values) := by
      split
      · exact within.flatten
      · exact within
    unfold Builtin.answer at ok
    simp only at ok
    split at ok
    next code first =>
      cases ok
      split at first
      · cases first
      · exact arguments.flatten.firstError first
    next =>
      obtain ⟨value, result, equal⟩ := bind_eq_ok.mp ok
      cases equal
      have traced := Builtin.traced_of_mem (Builtin.mem_all_of_find found)
      exact Answer.within_ofValue (traced _ (reported_of_ordinary earlier) ambient _ arguments value result)
  next =>
    rintro _ ⟨⟩
    exact ⟨(unknownFunction name).cut, List.mem_append_right _ List.mem_cons_self, rfl⟩

theorem accounts_onFailure {earlier : List Event} (source : Text) (depth : Int) (failure : Failure) :
    (onFailure source depth failure).Accounts earlier Answer.Within := by
  unfold onFailure
  split
  next reached limit =>
    split
    · exact .fail _ _
    · rintro _ ⟨⟩
      exact ⟨_, List.mem_append_right _ List.mem_cons_self, Or.inr rfl⟩
  next other =>
    rintro _ ⟨⟩
    refine ⟨_, List.mem_append_right _ List.mem_cons_self, Or.inl ?_⟩
    cases failure with
    | tooDeep reached limit => exact absurd rfl (other reached limit)
    | _ => rfl

theorem accounts_settle {earlier : List Event} (limit : Int) (source : Text) (depth : Int)
    {body : Unit → Outcome Answer} (inside : (body ()).Accounts earlier Answer.Within) :
    (settle limit source depth body).Accounts earlier Answer.Within := by
  unfold settle
  refine .recover ?_ (accounts_onFailure source depth)
  split
  · exact .fail _ _
  · exact inside

end Formula

/-! ## Arguments -/

theorem Expression.returns_evaluate {permitted : ErrorCode → Prop} (view : View) (expression : Expression) :
    Returns permitted (expression.evaluate view) := by
  cases expression with
  | number token =>
    refine .bind fun found => ?_
    cases found with
    | none => exact .bare rfl
    | some number => exact .bare rfl
  | quoted token => exact .bare rfl
  | cell token =>
    refine .bind fun found => ?_
    cases found with
    | none => exact .bare rfl
    | some position => exact .bind fun _ => .bind fun _ => .bare rfl
  | word token => exact .bare rfl
  | binary left operator right =>
    exact .bind fun _ => .bind fun _ => .bind fun _ => .bind fun _ => .bind fun _ => .bare rfl

theorem Relation.returns_apply {permitted : ErrorCode → Prop}
    (ordinary : ∀ code : ErrorCode, code.isOrdinary = true → permitted code) {left right : Value}
    (leftWithin : left.Within permitted) (rightWithin : right.Within permitted) (relation : Relation) :
    Returns permitted (relation.apply left right) := by
  unfold apply
  split
  · exact .ok leftWithin
  · exact .ok rightWithin
  · exact .ite (.code ordinary rfl) (.bind fun _ => .bare rfl)

theorem Formula.accounts_evaluateExpression {earlier : List Event} (view : View)
    (expression : Except Failure Expression) :
    (evaluateExpression view expression).Accounts earlier Answer.Within := by
  refine .ofExcept fun answer ok => ?_
  obtain ⟨tree, _, onward⟩ := bind_eq_ok.mp ok
  obtain ⟨value, evaluated, equal⟩ := bind_eq_ok.mp onward
  cases equal
  exact Answer.within_ofValue (tree.returns_evaluate view value evaluated)

namespace Argument

mutual

/-- No constant in the argument is an error code. -/
def Bare : Argument → Prop
  | constant value => value.codes = []
  | comparison left _ right => left.Bare ∧ right.Bare
  | call _ _ arguments => AllBare arguments
  | _ => True

def AllBare : List Argument → Prop
  | [] => True
  | argument :: rest => argument.Bare ∧ AllBare rest

end

theorem allBare_iff {arguments : List Argument} : AllBare arguments ↔ ∀ argument ∈ arguments, argument.Bare := by
  induction arguments with
  | nil => simp [AllBare]
  | cons argument rest ih => simp [AllBare, ih]

theorem bare_ofResult {α : Type} {read : α → Argument} {result : Except Failure α}
    (bare : ∀ value, result = .ok value → (read value).Bare) : (ofResult read result).Bare := by
  cases result with
  | ok value => exact bare value rfl
  | error failure => trivial

theorem bare_ofPlain (text : Text) {argument : Argument} (read : ofPlain text = .ok argument) : argument.Bare := by
  obtain ⟨number, _, onward⟩ := bind_eq_ok.mp read
  cases number with
  | some number =>
    cases onward
    rfl
  | none =>
    simp only at onward
    split at onward
    · cases onward
      rfl
    obtain ⟨arithmetic, _, onward⟩ := bind_eq_ok.mp onward
    split at onward
    · obtain ⟨expression, _, equal⟩ := bind_eq_ok.mp onward
      cases equal
      trivial
    · cases onward
      rfl

theorem bare_ofTrimmed (text : Text) : (ofTrimmed text).Bare := by
  induction text using ofTrimmed_induction with
  | range text parts found => exact bare_ofResult fun _ _ => trivial
  | cell text letters digits found => exact bare_ofResult fun _ _ => trivial
  | comparison text found equal left right => exact ⟨left, right⟩
  | call text name inner found pieces =>
    refine allBare_iff.mpr fun argument member => ?_
    obtain ⟨piece, among, rfl⟩ := List.mem_map.mp member
    exact pieces piece among
  | formula text starts none => trivial
  | plain text => exact bare_ofResult fun argument read => bare_ofPlain text read

variable {setting : Setting} {view : View}

theorem allWithin_of_mapM (free : ∀ position value, view position = .ok value → value.codes = [])
    {permitted : ErrorCode → Prop} {positions : List Position} {values : List Value}
    (seen : positions.mapM view = .ok values) : Value.AllWithin permitted values := by
  induction positions generalizing values with
  | nil =>
    cases seen
    exact .nil
  | cons position rest ih =>
    rw [List.mapM_cons] at seen
    obtain ⟨value, first, onward⟩ := bind_eq_ok.mp seen
    obtain ⟨others, later, equal⟩ := bind_eq_ok.mp onward
    cases equal
    exact .cons (.bare (free position value first)) (ih later)

mutual

theorem accounts_resolve (free : ∀ position value, view position = .ok value → value.codes = [])
    {earlier : List Event} (depth : Int) (keepsErrors : Bool) (argument : Argument)
    (bare : argument.Bare) :
    (resolve setting view depth keepsErrors argument).Accounts earlier Value.Within := by
  cases argument with
  | range span =>
    refine .ofExcept fun value ok => ?_
    obtain ⟨values, seen, equal⟩ := bind_eq_ok.mp ok
    cases equal
    exact Value.within_list.mpr (allWithin_of_mapM free seen)
  | cell position => exact .ofExcept fun value ok => .bare (free position value ok)
  | comparison left relation right =>
    simp only [resolve]
    refine (accounts_resolve free depth keepsErrors left bare.1).bind fun leftValue leftWithin => ?_
    refine (accounts_resolve free depth keepsErrors right bare.2).bind fun rightValue rightWithin => ?_
    refine .ofExcept ?_
    exact relation.returns_apply (reported_of_ordinary _) (leftWithin.mono (Reported.append _)) rightWithin
  | call source name arguments =>
    simp only [resolve, Formula.callFunction_eq]
    refine (Formula.accounts_settle _ source (depth + 1) ?_).bind fun answer within => ?_
    · refine (accounts_resolveAll free (depth + 1) (Formula.passesErrors name) arguments bare).bind
        fun values among => ?_
      exact Formula.accounts_apply setting.ambient name among
    · exact .succeed (Answer.within_asArgument within keepsErrors)
  | formula source expression =>
    simp only [resolve]
    refine (Formula.accounts_settle _ source (depth + 1) ?_).bind fun answer within => ?_
    · exact Formula.accounts_evaluateExpression view expression
    · exact .succeed (Answer.within_asArgument within keepsErrors)
  | constant value => exact .succeed (.bare bare)
  | arithmetic expression => exact .ofExcept (expression.returns_evaluate view)
  | invalid failure => exact .fail _ failure

theorem accounts_resolveAll (free : ∀ position value, view position = .ok value → value.codes = [])
    {earlier : List Event} (depth : Int) (keepsErrors : Bool)
    (arguments : List Argument) (bare : AllBare arguments) :
    (resolveAll setting view depth keepsErrors arguments).Accounts earlier Value.AllWithin := by
  cases arguments with
  | nil => exact .succeed .nil
  | cons argument rest =>
    simp only [resolveAll]
    refine (accounts_resolve free depth keepsErrors argument bare.1).bind fun value within => ?_
    refine (accounts_resolveAll free depth keepsErrors rest bare.2).bind fun values among => ?_
    exact .succeed (.cons (within.mono (Reported.append _)) among)

end

end Argument

/-! ## Formulas -/

theorem Formula.allBare_ofText {source name : Text} {arguments : List Argument}
    (parsed : ofText source = .call name arguments) : Argument.AllBare arguments := by
  unfold ofText at parsed
  split at parsed
  next rest =>
    simp only at parsed
    split at parsed
    next inner found =>
      cases parsed
      refine Argument.allBare_iff.mpr fun argument member => ?_
      obtain ⟨piece, _, rfl⟩ := List.mem_map.mp member
      exact Argument.bare_ofTrimmed (Text.strip piece)
    next =>
      split at parsed
      · cases parsed
      · cases parsed
  next => cases parsed

theorem Formula.accounts_answer {setting : Setting} {view : View}
    (free : ∀ position value, view position = .ok value → value.codes = []) (depth : Int) (source : Text) :
    ((ofText source).answer setting view depth source).Accounts [] Answer.Within := by
  cases parsed : ofText source with
  | plain => exact .succeed (Value.Within.bare rfl)
  | blank => exact accounts_settle _ source depth (.succeed (Value.Within.bare rfl))
  | call name arguments =>
    have bare := allBare_ofText parsed
    simp only [answer, callFunction_eq]
    refine accounts_settle _ source depth ?_
    refine (Argument.accounts_resolveAll free depth (passesErrors name) arguments bare).bind fun values among => ?_
    exact accounts_apply setting.ambient name among
  | expression tree => exact accounts_settle _ source depth (accounts_evaluateExpression view tree)

theorem Formula.result_answer (setting : Setting) (view : View) (source : Text) (formula : Formula) :
    ∃ answer, (formula.answer setting view 0 source).result = .ok answer := by
  have settled (body : Unit → Outcome Answer) :
      ∃ answer, (settle setting.maxDepth source 0 body).result = .ok answer := by
    unfold settle
    cases inside : (if 0 ≥ setting.maxDepth then Outcome.fail (.tooDeep 0 setting.maxDepth) else body ()).result with
    | ok answer => exact ⟨answer, by rw [Outcome.recover_of_ok inside, inside]⟩
    | error failure =>
      rw [Outcome.recover_of_error inside]
      cases failure with
      | tooDeep reached limit => exact ⟨_, rfl⟩
      | _ => exact ⟨_, rfl⟩
  cases formula with
  | plain => exact ⟨_, rfl⟩
  | blank => exact settled _
  | call name arguments => exact settled _
  | expression tree => exact settled _

theorem Sheet.codes_view {sheet : Sheet} (free : ∀ entry ∈ sheet, entry.2.visibleValue.codes = [])
    (position : Position) (value : Value) (seen : sheet.view position = .ok value) : value.codes = [] := by
  obtain ⟨key, _, equal⟩ := bind_eq_ok.mp seen
  cases equal
  unfold valueAt
  split
  next entry found => exact free _ (mem_of_lookup found)
  next => rfl

/-- Over cells without error codes an answer of `#NAME?` comes with an event for an unknown function, and one
of `#ERROR!` with an event for a failure or for too deep a nesting. -/
theorem evaluate_reported (setting : Setting) (sheet : Sheet)
    (free : ∀ entry ∈ sheet, entry.2.visibleValue.codes = []) (source : Text) :
    ∃ answer, (evaluate setting sheet.view source).result = .ok answer ∧
      let events := (evaluate setting sheet.view source).events
      (answer.errorOf = some .name → ∃ event ∈ events, event.kind = .formulaUnknownFunction) ∧
      (answer.errorOf = some .failure →
        ∃ event ∈ events, event.kind = .formulaFailed ∨ event.kind = .formulaDepthExceeded) ∧
      (events = [] → answer.errorOf = none ∨ answer.errorOf = some .reference ∨
        answer.errorOf = some .value ∨ answer.errorOf = some .notAvailable) := by
  obtain ⟨answer, ok⟩ := Formula.result_answer setting sheet.view source (Formula.ofText source)
  have accounted : answer.Within (Reported (evaluate setting sheet.view source).events) :=
    Formula.accounts_answer (Sheet.codes_view free) 0 source answer ok
  refine ⟨answer, ok, ?_⟩
  cases answer with
  | value found => exact ⟨nofun, nofun, fun _ => Or.inl rfl⟩
  | error code =>
    refine ⟨?_, ?_, fun silent => ?_⟩
    · rintro ⟨⟩
      exact accounted
    · rintro ⟨⟩
      exact accounted
    · rw [silent] at accounted
      cases code with
      | name =>
        obtain ⟨_, member, _⟩ := accounted
        cases member
      | failure =>
        obtain ⟨_, member, _⟩ := accounted
        cases member
      | reference => simp [Answer.errorOf]
      | value => simp [Answer.errorOf]
      | notAvailable => simp [Answer.errorOf]

def Sheet.listed : Sheet :=
  [("0,0".toList, .cell { value := .list [.integer 1, .empty] })]

theorem evaluate_reported_of_unknown :
    (evaluate ⟨4, ⟨0, 0, .utc⟩⟩ Sheet.listed.view "=IFNA(NOSUCH(A1),2)".toList).result = .ok (.error .name) ∧
      ∃ event ∈ (evaluate ⟨4, ⟨0, 0, .utc⟩⟩ Sheet.listed.view "=IFNA(NOSUCH(A1),2)".toList).events,
        event.kind = .formulaUnknownFunction := by
  have ends : (evaluate ⟨4, ⟨0, 0, .utc⟩⟩ Sheet.listed.view "=IFNA(NOSUCH(A1),2)".toList).result
      = .ok (.error .name) := by decide +kernel
  obtain ⟨answer, ok, reported, _⟩ :=
    evaluate_reported ⟨4, ⟨0, 0, .utc⟩⟩ Sheet.listed (by decide) "=IFNA(NOSUCH(A1),2)".toList
  rw [ends] at ok
  cases ok
  exact ⟨ends, reported rfl⟩

end Worksheet
