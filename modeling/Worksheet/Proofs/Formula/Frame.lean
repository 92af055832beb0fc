import Worksheet.Proofs.Formula.Call
import Worksheet.Proofs.Formula.Volatile

/-! Outermost calls. What the call of a function is answered with follows from what its arguments come to: the failure
of one of them is the failure of the call, and arguments that come to the same give the same answer. -/

namespace Worksheet

def Answer.ofResult : Except Failure Value → Answer
  | .ok found => ofValue found
  | .error _ => .error .failure

theorem Formula.result_onFailure_zero (source : Text) (failure : Failure) :
    (onFailure source 0 failure).result = .ok (.error .failure) := by
  cases failure with
  | tooDeep reached limit => rfl
  | _ => rfl

theorem Formula.result_settle_congr (limit : Int) (source other : Text) {body others : Unit → Outcome Answer}
    (same : (body ()).result = (others ()).result) :
    (settle limit source 0 body).result = (settle limit other 0 others).result := by
  unfold settle
  split
  · rfl
  · cases result : (body ()).result with
    | ok answer => rw [Outcome.recover_of_ok result, Outcome.recover_of_ok (same ▸ result), same]
    | error failure =>
      rw [Outcome.recover_of_error result, Outcome.recover_of_error (same ▸ result)]
      exact (result_onFailure_zero source failure).trans (result_onFailure_zero other failure).symm

theorem Formula.result_settle_of_error (limit : Int) (source : Text) {body : Unit → Outcome Answer}
    {failure : Failure} (failed : (body ()).result = .error failure) :
    (settle limit source 0 body).result = .ok (.error .failure) := by
  unfold settle
  split
  · rfl
  · rw [Outcome.recover_of_error failed]
    exact result_onFailure_zero source failure

theorem Formula.result_settle {limit : Int} (positive : 0 < limit) (source : Text)
    {body : Unit → Outcome Answer} {computed : Except Failure Value}
    (ends : (body ()).result = computed.map Answer.ofValue) :
    (settle limit source 0 body).result = .ok (Answer.ofResult computed) := by
  rw [settle, if_neg (by omega)]
  cases computed with
  | ok value => rw [Outcome.recover_of_ok ends, ends]; rfl
  | error failure =>
    rw [Outcome.recover_of_error ends]
    exact result_onFailure_zero source failure

def Builtin.given (builtin : Builtin) (values : List Value) : List Value :=
  if builtin.flattens then Value.flatten values else values

theorem Builtin.answer_of_acceptsErrors {builtin : Builtin} (accepts : builtin.acceptsErrors = true)
    (ambient : Ambient) (values : List Value) :
    builtin.answer ambient values = (builtin.run ambient (builtin.given values)).map Answer.ofValue := by
  rw [answer, accepts]
  change (builtin.run ambient (builtin.given values) >>= fun value => .ok (Answer.ofValue value)) = _
  cases builtin.run ambient (builtin.given values) with
  | ok value => rfl
  | error failure => rfl

theorem Argument.exists_error_of_mem {setting : Setting} {view : View} {depth : Int}
    {keepsErrors : Bool} {argument : Argument} {failure : Failure} {arguments : List Argument}
    (member : argument ∈ arguments)
    (failed : (resolve setting view depth keepsErrors argument).result = .error failure) :
    ∃ cause, (resolveAll setting view depth keepsErrors arguments).result = .error cause := by
  obtain ⟨before, after, rfl⟩ := List.append_of_mem member
  rw [result_resolveAll_append, result_resolveAll_cons, failed]
  cases (resolveAll setting view depth keepsErrors before).result with
  | error cause => exact ⟨cause, rfl⟩
  | ok values => exact ⟨failure, rfl⟩

/-- What is written around the arguments in a call of a function: its name, and white space in front, behind
the parenthesis and at the end. -/
structure CallFrame (builtin : Builtin) where
  lead : Text
  name : Text
  gap : Text
  tail : Text
  named : name ≠ []
  letters : ∀ char ∈ name, Text.isEnglishLetter char = true
  blankLead : Text.Blank lead
  blankGap : Text.Blank gap
  blankTail : Text.Blank tail
  found : Builtin.find? (Text.upper name) = some builtin

namespace CallFrame

variable {builtin : Builtin} {setting : Setting} {view : View}

def source (frame : CallFrame builtin) (pieces : List Piece) : Text :=
  '=' :: (frame.lead ++ (Piece.callText frame.name frame.gap pieces ++ frame.tail))

theorem result_call (frame : CallFrame builtin) (arguments : List Argument) :
    (Formula.callFunction setting (Text.upper frame.name) fun keeps =>
      Argument.resolveAll setting view 0 keeps arguments).result =
        (Argument.resolveAll setting view 0 builtin.acceptsErrors arguments).result >>=
          builtin.answer setting.ambient := by
  simp only [Formula.callFunction, frame.found]
  rw [Outcome.result_bind]
  rfl

theorem evaluate_source (frame : CallFrame builtin) (pieces : List Piece) :
    evaluate setting view (frame.source pieces) =
      Formula.settle setting.maxDepth (frame.source pieces) 0 fun _ =>
        Formula.callFunction setting (Text.upper frame.name) fun keeps =>
          Argument.resolveAll setting view 0 keeps (Piece.arguments pieces) := by
  have parsed := Formula.ofText_callText frame.named frame.letters frame.blankLead frame.blankGap frame.blankTail pieces
  rw [evaluate, evaluateAt, source, parsed, Formula.answer]

theorem evaluate_steady (frame : CallFrame builtin) (steady : builtin.volatile = false) {other : Setting}
    (alike : setting.Alike other) {pieces : List Piece}
    (allSteady : ∀ piece ∈ pieces, piece.argument.isVolatile = false) :
    evaluate setting view (frame.source pieces) = evaluate other view (frame.source pieces) := by
  apply evaluateAt_steady alike
  have parsed := Formula.ofText_callText frame.named frame.letters frame.blankLead frame.blankGap frame.blankTail pieces
  have arguments : Argument.anyVolatile (Piece.arguments pieces) = false := by
    refine Argument.anyVolatile_eq_false fun argument member => ?_
    obtain ⟨piece, among, rfl⟩ := Piece.exists_of_mem_arguments member
    exact allSteady piece among
  rw [source, parsed, Formula.isVolatile, frame.found, arguments]
  simpa using steady

theorem result_of_acceptsErrors (frame : CallFrame builtin) (positive : 0 < setting.maxDepth)
    (accepts : builtin.acceptsErrors = true) (pieces : List Piece) :
    (evaluate setting view (frame.source pieces)).result =
      .ok (Answer.ofResult
        ((Argument.resolveAll setting view 0 true (Piece.arguments pieces)).result >>= fun values =>
          builtin.run setting.ambient (builtin.given values))) := by
  rw [evaluate_source]
  refine Formula.result_settle positive _ ?_
  rw [frame.result_call, accepts]
  cases (Argument.resolveAll setting view 0 true (Piece.arguments pieces)).result with
  | error failure => rfl
  | ok values => exact Builtin.answer_of_acceptsErrors accepts setting.ambient values

theorem result_of_failed (frame : CallFrame builtin) {pieces : List Piece} {piece : Piece} {failure : Failure}
    (member : piece ∈ pieces)
    (failed : (piece.argument.resolve setting view 0 builtin.acceptsErrors).result = .error failure) :
    (evaluate setting view (frame.source pieces)).result = .ok (.error .failure) := by
  -- What fails is not blank, so it is an argument even where it stands last.
  have visible : piece.isBlank = false := by
    refine Piece.not_isBlank_of_argument fun blank => ?_
    rw [blank] at failed
    cases failed
  obtain ⟨cause, failedAll⟩ := Argument.exists_error_of_mem (Piece.mem_arguments member visible) failed
  have fails : (Formula.callFunction setting (Text.upper frame.name) fun keeps =>
      Argument.resolveAll setting view 0 keeps (Piece.arguments pieces)).result = .error cause := by
    rw [frame.result_call, failedAll]
    rfl
  rw [evaluate_source]
  exact Formula.result_settle_of_error _ _ fails

theorem result_of_invalid (frame : CallFrame builtin) {pieces : List Piece} {piece : Piece} {failure : Failure}
    (member : piece ∈ pieces) (invalid : piece.argument = .invalid failure) :
    (evaluate setting view (frame.source pieces)).result = .ok (.error .failure) := by
  apply frame.result_of_failed member
  rw [invalid]
  rfl

theorem result_replace (frame : CallFrame builtin) (before after : List Piece) {piece other : Piece}
    (visible : piece.isBlank = false) (otherVisible : other.isBlank = false)
    (same : (piece.argument.resolve setting view 0 builtin.acceptsErrors).result =
      (other.argument.resolve setting view 0 builtin.acceptsErrors).result) :
    (evaluate setting view (frame.source (before ++ piece :: after))).result =
      (evaluate setting view (frame.source (before ++ other :: after))).result := by
  rw [evaluate_source, evaluate_source, Piece.arguments_append_cons before visible after,
    Piece.arguments_append_cons before otherVisible after]
  refine Formula.result_settle_congr _ _ _ ?_
  rw [frame.result_call, frame.result_call, Argument.result_resolveAll_append, Argument.result_resolveAll_append,
    Argument.result_resolveAll_cons, Argument.result_resolveAll_cons, same]

end CallFrame

end Worksheet
