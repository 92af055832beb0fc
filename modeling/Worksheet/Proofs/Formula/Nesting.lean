import Worksheet.Formula.Evaluation
import Worksheet.Proofs.Formula.Argument
import Worksheet.Proofs.Outcome

/-! How deep formulas stand in one another. An evaluation that enters none at the limit of the depth goes on in the
same way under every greater limit; one that does fails as a whole, whatever functions stand around. -/

namespace Worksheet

namespace Formula

def passesErrors (name : Text) : Bool :=
  (Builtin.find? name).any (·.acceptsErrors)

def apply (ambient : Ambient) (name : Text) (values : List Value) : Outcome Answer :=
  match Builtin.find? name with
  | some builtin => Outcome.ofExcept (builtin.answer ambient values)
  | none => Outcome.report (unknownFunction name) (.error .name)

theorem callFunction_eq (setting : Setting) (name : Text) (resolve : Bool → Outcome (List Value)) :
    callFunction setting name resolve = resolve (passesErrors name) >>= apply setting.ambient name := by
  unfold callFunction passesErrors apply
  cases Builtin.find? name with
  | none => rfl
  | some builtin => rfl

end Formula

/-! ## The formulas entered -/

/-- The depths entered with a formula at the given depth that would enter others inside. -/
def enter (limit depth : Int) (inside : List Int) : List Int :=
  depth :: if depth ≥ limit then [] else inside

namespace Argument

mutual

def entered (setting : Setting) (view : View) (depth : Int) (keepsErrors : Bool) : Argument → List Int
  | comparison left _ right =>
    entered setting view depth keepsErrors left ++
      if (resolve setting view depth keepsErrors left).result.isOk then
        entered setting view depth keepsErrors right
      else []
  | call _ name arguments =>
    enter setting.maxDepth (depth + 1)
      (enteredAll setting view (depth + 1) (Formula.passesErrors name) arguments)
  | formula _ _ => enter setting.maxDepth (depth + 1) []
  | _ => []

def enteredAll (setting : Setting) (view : View) (depth : Int) (keepsErrors : Bool) :
    List Argument → List Int
  | [] => []
  | argument :: rest =>
    entered setting view depth keepsErrors argument ++
      if (resolve setting view depth keepsErrors argument).result.isOk then
        enteredAll setting view depth keepsErrors rest
      else []

end

end Argument

def Formula.entered (setting : Setting) (view : View) (depth : Int) : Formula → List Int
  | plain => []
  | blank => enter setting.maxDepth depth []
  | call name arguments =>
    enter setting.maxDepth depth (Argument.enteredAll setting view depth (passesErrors name) arguments)
  | expression _ => enter setting.maxDepth depth []

/-- The evaluation of the text enters a formula at the limit of the depth. -/
def Overruns (setting : Setting) (view : View) (source : Text) : Prop :=
  ∃ reached ∈ (Formula.ofText source).entered setting view 0, setting.maxDepth ≤ reached

/-! ## No event before the last -/

def Outcome.Quiet {α : Type} (outcome : Outcome α) : Prop :=
  ∀ event ∈ outcome.events, event.kind ≠ .formulaDepthExceeded

namespace Outcome

variable {α β : Type}

theorem Quiet.of_no_events {outcome : Outcome α} (none : outcome.events = []) : outcome.Quiet := by
  simp [Quiet, none]

theorem Quiet.bind {first : Outcome α} {next : α → Outcome β} (quiet : first.Quiet)
    (later : ∀ value, (next value).Quiet) : (first >>= next).Quiet := by
  cases result : first.result with
  | error failure =>
    rw [bind_of_error result]
    exact quiet
  | ok value =>
    rw [bind_of_ok result]
    intro event member
    rcases List.mem_append.mp member with before | after
    · exact quiet event before
    · exact later value event after

theorem Quiet.recover {first : Outcome α} {handle : Failure → Outcome α} (quiet : first.Quiet)
    (later : ∀ failure, (handle failure).Quiet) : (first.recover handle).Quiet := by
  cases result : first.result with
  | ok value =>
    rw [recover_of_ok result]
    exact quiet
  | error failure =>
    rw [recover_of_error result]
    intro event member
    rcases List.mem_append.mp member with before | after
    · exact quiet event before
    · exact later failure event after

end Outcome

namespace Formula

theorem quiet_apply (ambient : Ambient) (name : Text) (values : List Value) :
    (apply ambient name values).Quiet := by
  unfold apply
  split
  · exact Outcome.Quiet.of_no_events rfl
  · simp [Outcome.Quiet, Event.cut, unknownFunction]

theorem quiet_onFailure {depth : Int} (inner : 0 < depth) (source : Text) (failure : Failure) :
    (onFailure source depth failure).Quiet := by
  unfold onFailure
  split
  · rw [if_pos inner]
    exact Outcome.Quiet.of_no_events rfl
  · rename_i other
    cases failure with
    | tooDeep reached limit => exact absurd rfl (other reached limit)
    | _ => simp [Outcome.Quiet, Event.cut, Failure.event]

theorem quiet_settle {depth : Int} (inner : 0 < depth) (limit : Int) (source : Text)
    {body : Unit → Outcome Answer} (quiet : (body ()).Quiet) :
    (settle limit source depth body).Quiet := by
  unfold settle
  refine Outcome.Quiet.recover ?_ (quiet_onFailure inner source)
  split
  · exact Outcome.Quiet.of_no_events rfl
  · exact quiet

end Formula

namespace Argument

mutual

theorem quiet_resolve (setting : Setting) (view : View) {depth : Int} (inner : 0 ≤ depth)
    (keepsErrors : Bool) (argument : Argument) : (resolve setting view depth keepsErrors argument).Quiet := by
  cases argument with
  | comparison left relation right =>
    simp only [resolve]
    refine (quiet_resolve setting view inner keepsErrors left).bind fun _ => ?_
    refine (quiet_resolve setting view inner keepsErrors right).bind fun _ => ?_
    exact Outcome.Quiet.of_no_events rfl
  | call source name arguments =>
    simp only [resolve, Formula.callFunction_eq]
    have deeper : 0 < depth + 1 := by omega
    have arguments := quiet_resolveAll setting view (show 0 ≤ depth + 1 by omega)
      (Formula.passesErrors name) arguments
    refine (Formula.quiet_settle deeper _ _ (arguments.bind ?_)).bind fun _ => ?_
    · exact Formula.quiet_apply setting.ambient name
    · exact Outcome.Quiet.of_no_events rfl
  | formula source expression =>
    simp only [resolve]
    have deeper : 0 < depth + 1 := by omega
    refine (Formula.quiet_settle deeper _ _ ?_).bind fun _ => ?_
    · exact Outcome.Quiet.of_no_events rfl
    · exact Outcome.Quiet.of_no_events rfl
  | range span => exact Outcome.Quiet.of_no_events rfl
  | cell position => exact Outcome.Quiet.of_no_events rfl
  | constant value => exact Outcome.Quiet.of_no_events rfl
  | arithmetic expression => exact Outcome.Quiet.of_no_events rfl
  | invalid failure => exact Outcome.Quiet.of_no_events rfl

theorem quiet_resolveAll (setting : Setting) (view : View) {depth : Int} (inner : 0 ≤ depth)
    (keepsErrors : Bool) (arguments : List Argument) :
    (resolveAll setting view depth keepsErrors arguments).Quiet := by
  cases arguments with
  | nil => exact Outcome.Quiet.of_no_events rfl
  | cons argument rest =>
    simp only [resolveAll]
    refine (quiet_resolve setting view inner keepsErrors argument).bind fun _ => ?_
    refine (quiet_resolveAll setting view inner keepsErrors rest).bind fun _ => ?_
    exact Outcome.Quiet.of_no_events rfl

end

end Argument

/-! ## An overrun fails the whole -/

def Outcome.Overran {α : Type} (limit : Int) (outcome : Outcome α) : Prop :=
  ∃ reached, limit ≤ reached ∧ outcome.result = .error (.tooDeep reached limit)

theorem Outcome.Overran.bind {α β : Type} {limit : Int} {first : Outcome α} (overran : first.Overran limit)
    (next : α → Outcome β) : (first >>= next).Overran limit := by
  obtain ⟨reached, above, result⟩ := overran
  exact ⟨reached, above, by rw [bind_of_error result]⟩

theorem Outcome.Overran.of_bind {α β : Type} {limit : Int} {first : Outcome α} {next : α → Outcome β}
    (overran : ∀ value, first.result = .ok value → (next value).Overran limit)
    (ok : first.result.isOk = true) : (first >>= next).Overran limit := by
  cases result : first.result with
  | error failure => simp [result, Except.isOk, Except.toBool] at ok
  | ok value =>
    obtain ⟨reached, above, final⟩ := overran value result
    exact ⟨reached, above, by rw [bind_of_ok result]; exact final⟩

theorem mem_enter {limit depth reached : Int} {inside : List Int}
    (member : reached ∈ enter limit depth inside) :
    reached = depth ∨ depth < limit ∧ reached ∈ inside := by
  rcases List.mem_cons.mp member with same | deeper
  · exact Or.inl same
  · split at deeper
    · cases deeper
    · exact Or.inr ⟨by omega, deeper⟩

namespace Formula

theorem overran_body {limit depth reached : Int} {inside : List Int} {body : Unit → Outcome Answer}
    (member : reached ∈ enter limit depth inside) (above : limit ≤ reached)
    (deeper : reached ∈ inside → (body ()).Overran limit) :
    (if depth ≥ limit then Outcome.fail (.tooDeep depth limit) else body ()).Overran limit := by
  split
  next atLimit => exact ⟨depth, atLimit, rfl⟩
  next below =>
    rcases mem_enter member with same | ⟨_, member⟩
    · omega
    · exact deeper member

theorem overran_settle {limit depth reached : Int} {inside : List Int} (source : Text)
    {body : Unit → Outcome Answer} (inner : 0 < depth) (member : reached ∈ enter limit depth inside)
    (above : limit ≤ reached) (deeper : reached ∈ inside → (body ()).Overran limit) :
    (settle limit source depth body).Overran limit := by
  obtain ⟨final, bound, failed⟩ := overran_body member above deeper
  refine ⟨final, bound, ?_⟩
  rw [settle, Outcome.recover_of_error failed]
  simp [onFailure, inner]

theorem settle_overrun {limit reached : Int} {inside : List Int} (source : Text)
    {body : Unit → Outcome Answer} (quiet : (body ()).Quiet) (member : reached ∈ enter limit 0 inside)
    (above : limit ≤ reached) (deeper : reached ∈ inside → (body ()).Overran limit) :
    ∃ before last, settle limit source 0 body = ⟨before ++ [last], .ok (.error .failure)⟩ ∧
      last.kind = .formulaDepthExceeded ∧ ∀ event ∈ before, event.kind ≠ .formulaDepthExceeded := by
  obtain ⟨final, bound, failed⟩ := overran_body member above deeper
  have before : (if (0 : Int) ≥ limit then Outcome.fail (.tooDeep 0 limit) else body ()).Quiet := by
    split
    · exact Outcome.Quiet.of_no_events rfl
    · exact quiet
  refine ⟨_, (Failure.event source (.tooDeep final limit)).cut, ?_, rfl, before⟩
  rw [settle, Outcome.recover_of_error failed]
  simp [onFailure]

end Formula

namespace Argument

mutual

theorem overran_resolve (setting : Setting) (view : View) {depth reached : Int} (inner : 0 ≤ depth)
    (keepsErrors : Bool) (argument : Argument)
    (member : reached ∈ entered setting view depth keepsErrors argument)
    (above : setting.maxDepth ≤ reached) :
    (resolve setting view depth keepsErrors argument).Overran setting.maxDepth := by
  cases argument with
  | comparison left relation right =>
    simp only [resolve]
    rcases List.mem_append.mp member with member | member
    · exact (overran_resolve setting view inner keepsErrors left member above).bind _
    · split at member
      next ok =>
        refine Outcome.Overran.of_bind (fun _ _ => ?_) ok
        exact (overran_resolve setting view inner keepsErrors right member above).bind _
      next => cases member
  | call source name arguments =>
    simp only [resolve, Formula.callFunction_eq]
    have deeper : 0 < depth + 1 := by omega
    refine (Formula.overran_settle source deeper member above fun inside => ?_).bind _
    exact (overran_resolveAll setting view (by omega) _ arguments inside above).bind _
  | formula source expression =>
    simp only [resolve]
    have deeper : 0 < depth + 1 := by omega
    refine (Formula.overran_settle source deeper member above fun inside => ?_).bind _
    cases inside
  | range span => cases member
  | cell position => cases member
  | constant value => cases member
  | arithmetic expression => cases member
  | invalid failure => cases member

theorem overran_resolveAll (setting : Setting) (view : View) {depth reached : Int} (inner : 0 ≤ depth)
    (keepsErrors : Bool) (arguments : List Argument)
    (member : reached ∈ enteredAll setting view depth keepsErrors arguments)
    (above : setting.maxDepth ≤ reached) :
    (resolveAll setting view depth keepsErrors arguments).Overran setting.maxDepth := by
  cases arguments with
  | nil => cases member
  | cons argument rest =>
    simp only [resolveAll]
    rcases List.mem_append.mp member with member | member
    · exact (overran_resolve setting view inner keepsErrors argument member above).bind _
    · split at member
      next ok =>
        refine Outcome.Overran.of_bind (fun _ _ => ?_) ok
        exact (overran_resolveAll setting view inner keepsErrors rest member above).bind _
      next => cases member

end

end Argument

/-! ## Without an overrun the limit does not show -/

theorem below_of_enter {limit depth : Int} {inside : List Int}
    (below : ∀ reached ∈ enter limit depth inside, reached < limit) :
    depth < limit ∧ ∀ reached ∈ inside, reached < limit := by
  have own : depth < limit := below depth (List.mem_cons_self ..)
  refine ⟨own, fun reached member => below reached (List.mem_cons_of_mem _ ?_)⟩
  rw [if_neg (by omega)]
  exact member

theorem Formula.settle_lockstep {limit larger depth : Int} (source : Text) {body : Unit → Outcome Answer}
    {inside : List Int} {bodyLarger : Unit → Outcome Answer} (le : limit ≤ larger)
    (below : ∀ reached ∈ enter limit depth inside, reached < limit)
    (same : (∀ reached ∈ inside, reached < limit) → bodyLarger () = body ()) :
    settle larger source depth bodyLarger = settle limit source depth body := by
  obtain ⟨own, deeper⟩ := below_of_enter below
  have shallow : ¬depth ≥ limit := by omega
  have shallowLarger : ¬depth ≥ larger := by omega
  rw [settle, settle, if_neg shallow, if_neg shallowLarger, same deeper]

theorem below_of_continue {α : Type} {limit : Int} {first : Outcome α} {value : α} {here later : List Int}
    (below : ∀ reached ∈ here ++ (if first.result.isOk then later else []), reached < limit)
    (ok : first.result = .ok value) : ∀ reached ∈ later, reached < limit := by
  intro reached member
  have continues : first.result.isOk = true := by rw [ok]; rfl
  apply below reached
  rw [if_pos continues]
  exact List.mem_append_right _ member

namespace Argument

variable {setting : Setting} {larger : Int}

mutual

theorem resolve_lockstep (le : setting.maxDepth ≤ larger) (view : View) (depth : Int) (keepsErrors : Bool)
    (argument : Argument)
    (below : ∀ reached ∈ entered setting view depth keepsErrors argument, reached < setting.maxDepth) :
    resolve ⟨larger, setting.ambient⟩ view depth keepsErrors argument
      = resolve setting view depth keepsErrors argument := by
  cases argument with
  | comparison left relation right =>
    have belowLeft reached member := below reached (List.mem_append_left _ member)
    simp only [resolve]
    rw [resolve_lockstep le view depth keepsErrors left belowLeft]
    refine Outcome.bind_congr fun value ok => ?_
    rw [resolve_lockstep le view depth keepsErrors right (below_of_continue below ok)]
  | call source name arguments =>
    simp only [resolve, Formula.callFunction_eq]
    rw [Formula.settle_lockstep source le below fun deeper => ?_]
    rw [resolveAll_lockstep le view (depth + 1) _ arguments deeper]
  | formula source expression =>
    simp only [resolve]
    rw [Formula.settle_lockstep source le below fun _ => rfl]
  | range span => rfl
  | cell position => rfl
  | constant value => rfl
  | arithmetic expression => rfl
  | invalid failure => rfl

theorem resolveAll_lockstep (le : setting.maxDepth ≤ larger) (view : View) (depth : Int)
    (keepsErrors : Bool) (arguments : List Argument)
    (below : ∀ reached ∈ enteredAll setting view depth keepsErrors arguments,
      reached < setting.maxDepth) :
    resolveAll ⟨larger, setting.ambient⟩ view depth keepsErrors arguments
      = resolveAll setting view depth keepsErrors arguments := by
  cases arguments with
  | nil => rfl
  | cons argument rest =>
    have belowHere reached member := below reached (List.mem_append_left _ member)
    simp only [resolveAll]
    rw [resolve_lockstep le view depth keepsErrors argument belowHere]
    refine Outcome.bind_congr fun value ok => ?_
    rw [resolveAll_lockstep le view depth keepsErrors rest (below_of_continue below ok)]

end

end Argument

/-! ## Every formula has a limit that it stays below -/

namespace Argument

mutual

def height : Argument → Nat
  | comparison left _ right => max left.height right.height
  | call _ _ arguments => heightAll arguments + 1
  | formula _ _ => 1
  | _ => 0

def heightAll : List Argument → Nat
  | [] => 0
  | argument :: rest => max argument.height (heightAll rest)

end

mutual

theorem entered_le (setting : Setting) (view : View) (depth : Int) (keepsErrors : Bool)
    (argument : Argument) {reached : Int} (member : reached ∈ entered setting view depth keepsErrors argument) :
    reached ≤ depth + argument.height := by
  cases argument with
  | comparison left relation right =>
    simp only [height]
    rcases List.mem_append.mp member with member | member
    · have bound := entered_le setting view depth keepsErrors left member
      omega
    · split at member
      · have bound := entered_le setting view depth keepsErrors right member
        omega
      · cases member
  | call source name arguments =>
    simp only [height]
    rcases mem_enter member with same | ⟨_, member⟩
    · omega
    · have bound := enteredAll_le setting view (depth + 1) _ arguments member
      omega
  | formula source expression =>
    simp only [height]
    rcases mem_enter member with same | ⟨_, member⟩
    · omega
    · cases member
  | range span => cases member
  | cell position => cases member
  | constant value => cases member
  | arithmetic expression => cases member
  | invalid failure => cases member

theorem enteredAll_le (setting : Setting) (view : View) (depth : Int) (keepsErrors : Bool)
    (arguments : List Argument) {reached : Int}
    (member : reached ∈ enteredAll setting view depth keepsErrors arguments) :
    reached ≤ depth + heightAll arguments := by
  cases arguments with
  | nil => cases member
  | cons argument rest =>
    simp only [heightAll]
    rcases List.mem_append.mp member with member | member
    · have bound := entered_le setting view depth keepsErrors argument member
      omega
    · split at member
      · have bound := enteredAll_le setting view depth keepsErrors rest member
        omega
      · cases member

end

theorem heightAll_le {arguments : List Argument} {bound : Nat}
    (each : ∀ argument ∈ arguments, argument.height ≤ bound) : heightAll arguments ≤ bound := by
  induction arguments with
  | nil => simp [heightAll]
  | cons argument rest ih =>
    have here := each argument (by simp)
    have later := ih fun other member => each other (by simp [member])
    simp only [heightAll]
    omega

theorem height_ofPlain (text : Text) : (ofResult id (ofPlain text)).height = 0 := by
  cases plain : ofPlain text with
  | error failure => rfl
  | ok argument =>
    unfold ofPlain at plain
    obtain ⟨number, _, plain⟩ := bind_eq_ok.mp plain
    cases number with
    | some number =>
      cases plain
      rfl
    | none =>
      simp only at plain
      split at plain
      · cases plain
        rfl
      · obtain ⟨arithmetic, _, plain⟩ := bind_eq_ok.mp plain
        split at plain
        · obtain ⟨expression, _, plain⟩ := bind_eq_ok.mp plain
          cases plain
          rfl
        · cases plain
          rfl

theorem height_ofResult {α : Type} {read : α → Argument} (flat : ∀ value, (read value).height = 0)
    (result : Except Failure α) : (ofResult read result).height = 0 := by
  cases result with
  | error failure => rfl
  | ok value => exact flat value

theorem count_inside_lt {text name inner : Text} (found : callParts? text = some (name, inner)) :
    inner.count '(' < text.count '(' := by
  obtain ⟨rest, after, start⟩ := inside_of_callParts found
  have outer := after.sublist.count_le '('
  have whole := start.sublist.count_le '('
  rw [List.count_cons_self] at outer
  omega

theorem count_pos_of_callStart {text : Text} (starts : (callStart? text).isSome = true) :
    0 < text.count '(' := by
  obtain ⟨⟨letters, rest⟩, found⟩ := Option.isSome_iff_exists.mp starts
  have outer := (isSuffix_of_callStart found).sublist.count_le '('
  rw [List.count_cons_self] at outer
  omega

theorem heightAll_splitArguments_le {inner : Text}
    (each : ∀ piece ∈ Scan.splitArguments inner,
      (ofText piece).height ≤ (Text.strip piece).count '(') :
    heightAll ((Scan.splitArguments inner).map ofText) ≤ inner.count '(' := by
  apply heightAll_le
  intro argument member
  obtain ⟨piece, among, rfl⟩ := List.mem_map.mp member
  have inside := (Text.strip_isInfix piece).trans (Scan.isInfix_of_mem_splitArguments among)
  exact (each piece among).trans (inside.sublist.count_le '(')

theorem height_le_count (text : Text) : (ofTrimmed text).height ≤ text.count '(' := by
  induction text using ofTrimmed_induction with
  | range text parts found =>
    have flat : (ofSpanParts parts).height = 0 := height_ofResult (fun _ => rfl) _
    omega
  | cell text letters digits found =>
    have flat : (ofResult cell (Address.ofParts letters digits)).height = 0 :=
      height_ofResult (fun _ => rfl) _
    omega
  | comparison text found equal left right =>
    obtain ⟨insideLeft, insideRight⟩ := Comparison.isInfix_of_find equal
    have leftCount := ((Text.strip_isInfix found.left).trans insideLeft).sublist.count_le '('
    have rightCount := ((Text.strip_isInfix found.right).trans insideRight).sublist.count_le '('
    simp only [height]
    omega
  | call text name inner found pieces =>
    have fewer := count_inside_lt found
    have each := heightAll_splitArguments_le pieces
    simp only [height]
    omega
  | formula text starts none =>
    simp only [height]
    exact count_pos_of_callStart starts
  | plain text =>
    have flat := height_ofPlain text
    omega

end Argument

/-! ## Formulas -/

namespace Formula

theorem answer_overrun (setting : Setting) (view : View) (source : Text) (formula : Formula)
    {reached : Int} (member : reached ∈ formula.entered setting view 0)
    (above : setting.maxDepth ≤ reached) :
    ∃ before last, formula.answer setting view 0 source = ⟨before ++ [last], .ok (.error .failure)⟩ ∧
      last.kind = .formulaDepthExceeded ∧ ∀ event ∈ before, event.kind ≠ .formulaDepthExceeded := by
  cases formula with
  | plain => cases member
  | blank =>
    simp only [answer]
    refine settle_overrun source ?_ member above fun inside => nomatch inside
    exact Outcome.Quiet.of_no_events rfl
  | call name arguments =>
    simp only [answer, callFunction_eq]
    have quiet := Argument.quiet_resolveAll setting view (Int.le_refl 0) (passesErrors name) arguments
    refine settle_overrun source (quiet.bind ?_) member above fun inside => ?_
    · exact quiet_apply setting.ambient name
    · exact (Argument.overran_resolveAll setting view (Int.le_refl 0) _ arguments inside above).bind _
  | expression parsed =>
    simp only [answer]
    refine settle_overrun source ?_ member above fun inside => nomatch inside
    exact Outcome.Quiet.of_no_events rfl

theorem answer_lockstep {setting : Setting} {larger : Int} (le : setting.maxDepth ≤ larger) (view : View)
    (depth : Int) (source : Text) (formula : Formula)
    (below : ∀ reached ∈ formula.entered setting view depth, reached < setting.maxDepth) :
    formula.answer ⟨larger, setting.ambient⟩ view depth source
      = formula.answer setting view depth source := by
  cases formula with
  | plain => rfl
  | blank =>
    simp only [answer]
    exact settle_lockstep source le below fun _ => rfl
  | call name arguments =>
    simp only [answer, callFunction_eq]
    refine settle_lockstep source le below fun deeper => ?_
    rw [Argument.resolveAll_lockstep le view depth _ arguments deeper]
  | expression parsed =>
    simp only [answer]
    exact settle_lockstep source le below fun _ => rfl

theorem entered_ofText {setting : Setting} {view : View} {source : Text} {reached : Int}
    (member : reached ∈ (ofText source).entered setting view 0) :
    reached = 0 ∨ reached < source.count '(' := by
  unfold ofText at member
  split at member
  · rename_i rest
    have body := (Text.strip_isInfix rest).sublist.count_le '('
    have whole : rest.count '(' ≤ ('=' :: rest).count '(' := (List.sublist_cons_self _ _).count_le '('
    simp only at member
    split at member
    · rename_i name inner found
      rcases mem_enter member with same | ⟨_, member⟩
      · exact Or.inl same
      · have fewer := Argument.count_inside_lt found
        have bound := Argument.enteredAll_le setting view 0 _ _ member
        have each := Argument.heightAll_splitArguments_le fun piece (_ : piece ∈ Scan.splitArguments inner) =>
          Argument.height_le_count (Text.strip piece)
        omega
    · split at member
      · rcases mem_enter member with same | ⟨_, member⟩
        · exact Or.inl same
        · cases member
      · rcases mem_enter member with same | ⟨_, member⟩
        · exact Or.inl same
        · cases member
  · cases member

end Formula

theorem not_overruns_of_count_le {setting : Setting} (view : View) {source : Text}
    (positive : 1 ≤ setting.maxDepth) (few : (source.count '(' : Int) ≤ setting.maxDepth) :
    ¬Overruns setting view source := by
  rintro ⟨reached, member, above⟩
  rcases Formula.entered_ofText member with same | fewer
  · omega
  · omega

/-- An evaluation that enters a formula at the limit of the depth is answered with an error, and only its
last event reports the overrun. Any other is the same under every greater limit, and for each formula the
limits from one on that are not below the number of its parentheses are never reached. -/
theorem evaluate_nesting (setting : Setting) (view : View) (source : Text) :
    (Overruns setting view source → ∃ before last,
      evaluate setting view source = ⟨before ++ [last], .ok (.error .failure)⟩ ∧
        last.kind = .formulaDepthExceeded ∧ ∀ event ∈ before, event.kind ≠ .formulaDepthExceeded) ∧
    (¬Overruns setting view source → ∀ larger, setting.maxDepth ≤ larger →
      evaluate ⟨larger, setting.ambient⟩ view source = evaluate setting view source) ∧
    (1 ≤ setting.maxDepth → (source.count '(' : Int) ≤ setting.maxDepth →
      ¬Overruns setting view source) ∧
    ∃ enough, ∀ larger, enough ≤ larger → ¬Overruns ⟨larger, setting.ambient⟩ view source := by
  refine ⟨?_, ?_, fun positive few => not_overruns_of_count_le view positive few, ?_⟩
  · rintro ⟨reached, member, above⟩
    exact Formula.answer_overrun setting view source _ member above
  · intro stays larger le
    refine Formula.answer_lockstep le view 0 source _ fun reached member => ?_
    by_contra above
    exact stays ⟨reached, member, by omega⟩
  · refine ⟨max 1 (source.count '(' : Int), fun larger le => not_overruns_of_count_le view ?_ ?_⟩
    · change 1 ≤ larger
      omega
    · change (source.count '(' : Int) ≤ larger
      omega

instance (setting : Setting) (view : View) (source : Text) : Decidable (Overruns setting view source) :=
  inferInstanceAs (Decidable (∃ reached ∈ (Formula.ofText source).entered setting view 0,
    setting.maxDepth ≤ reached))

theorem evaluate_nesting_of_two :
    (∃ before last, evaluate ⟨2, ⟨0, 0, .utc⟩⟩ (fun _ => .ok .empty) "=IF(1=1,2,NONE(IFERROR(3,4)))".toList
        = ⟨before ++ [last], .ok (.error .failure)⟩ ∧
      last.kind = .formulaDepthExceeded ∧ ∀ event ∈ before, event.kind ≠ .formulaDepthExceeded) ∧
    evaluate ⟨64, ⟨0, 0, .utc⟩⟩ (fun _ => .ok .empty) "=IF(1=1,2,NONE(3))".toList
      = evaluate ⟨2, ⟨0, 0, .utc⟩⟩ (fun _ => .ok .empty) "=IF(1=1,2,NONE(3))".toList ∧
    ¬Overruns ⟨2, ⟨0, 0, .utc⟩⟩ (fun _ => .ok .empty) "=IF(1=1,2,NONE(3))".toList :=
  ⟨(evaluate_nesting _ _ _).1 (by decide +kernel),
    (evaluate_nesting ⟨2, ⟨0, 0, .utc⟩⟩ _ _).2.1 (by decide +kernel) 64 (by decide),
    (evaluate_nesting _ _ _).2.2.1 (by decide) (by decide)⟩

end Worksheet
