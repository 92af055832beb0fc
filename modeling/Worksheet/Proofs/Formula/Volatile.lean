import Worksheet.Formula.Evaluation
import Worksheet.Proofs.Outcome

/-! Formulas that call no changing function. Their answers are the same in all surroundings of one zone. -/

namespace Worksheet

namespace Builtin

/-- The surroundings, but for the zone, matter only to a function that says so. -/
def Honest (builtin : Builtin) : Prop :=
  builtin.volatile = false → ∀ first second : Ambient, first.zone = second.zone → builtin.run first = builtin.run second

@[simp] theorem honest_plain (name : String) (run : List Value → Except Failure Value) :
    (plain name run).Honest :=
  fun _ _ _ _ => rfl

@[simp] theorem honest_overRanges (name : String) (run : List Value → Except Failure Value) :
    (overRanges name run).Honest :=
  fun _ _ _ _ => rfl

@[simp] theorem honest_errorAware (name : String) (run : List Value → Except Failure Value) :
    (errorAware name run).Honest :=
  fun _ _ _ _ => rfl

@[simp] theorem honest_ofDates (name : String) (run : Zone → List Value → Except Failure Value) :
    (ofDates name run).Honest :=
  fun _ _ _ sameZone => congrArg run sameZone

@[simp] theorem honest_changing (name : String) (run : Ambient → List Value → Except Failure Value) :
    (changing name run).Honest :=
  fun steady => nomatch steady

theorem honest_of_mem {builtin : Builtin} (member : builtin ∈ all) : builtin.Honest := by
  revert builtin
  simp [all, aggregates, arithmetic, lookups, logic, texts, dates]

theorem mem_all_of_find {name : Text} {builtin : Builtin} (found : find? name = some builtin) :
    builtin ∈ all := by
  unfold find? at found
  exact List.mem_of_find?_eq_some found

theorem answer_steady {name : Text} {builtin : Builtin} (found : find? name = some builtin)
    (steady : builtin.volatile = false) {first second : Ambient} (sameZone : first.zone = second.zone)
    (values : List Value) : builtin.answer first values = builtin.answer second values := by
  have same := honest_of_mem (mem_all_of_find found) steady first second sameZone
  simp only [answer, same]

end Builtin

namespace Argument

mutual

def isVolatile : Argument → Bool
  | comparison left _ right => left.isVolatile || right.isVolatile
  | call _ name arguments => (Builtin.find? name).any (·.volatile) || anyVolatile arguments
  | _ => false

def anyVolatile : List Argument → Bool
  | [] => false
  | argument :: rest => argument.isVolatile || anyVolatile rest

end

end Argument

namespace Argument

theorem anyVolatile_eq_false {arguments : List Argument} (steady : ∀ argument ∈ arguments, argument.isVolatile = false) :
    anyVolatile arguments = false := by
  induction arguments with
  | nil => rfl
  | cons argument rest ih =>
    obtain ⟨first, later⟩ := List.forall_mem_cons.mp steady
    rw [anyVolatile, first, ih later]
    rfl

end Argument

def Formula.isVolatile : Formula → Bool
  | call name arguments => (Builtin.find? name).any (·.volatile) || Argument.anyVolatile arguments
  | _ => false

structure Setting.Alike (setting other : Setting) : Prop where
  limit : setting.maxDepth = other.maxDepth
  zone : setting.ambient.zone = other.ambient.zone

variable {setting other : Setting}

theorem Formula.callFunction_steady (alike : setting.Alike other) {name : Text}
    {resolve resolveOther : Bool → Outcome (List Value)}
    (steady : (Builtin.find? name).any (·.volatile) = false)
    (same : ∀ keeps, resolve keeps = resolveOther keeps) :
    callFunction setting name resolve = callFunction other name resolveOther := by
  unfold callFunction
  cases found : Builtin.find? name with
  | none => simp only [same]
  | some builtin =>
    rw [found] at steady
    have answer := Builtin.answer_steady found (by simpa using steady) alike.zone
    simp only [same, answer]

namespace Argument

mutual

theorem resolve_steady (alike : setting.Alike other) (view : View) (depth : Int)
    (keepsErrors : Bool) (argument : Argument) (steady : argument.isVolatile = false) :
    resolve setting view depth keepsErrors argument = resolve other view depth keepsErrors argument := by
  cases argument with
  | comparison left relation right =>
    simp only [isVolatile, Bool.or_eq_false_iff] at steady
    have sameLeft := resolve_steady alike view depth keepsErrors left steady.1
    have sameRight := resolve_steady alike view depth keepsErrors right steady.2
    simp only [resolve, sameLeft, sameRight]
  | call source name arguments =>
    simp only [isVolatile, Bool.or_eq_false_iff] at steady
    have same (keeps : Bool) := resolveAll_steady alike view (depth + 1) keeps arguments steady.2
    simp only [resolve, alike.limit, Formula.callFunction_steady alike steady.1 same]
  | formula source expression => simp only [resolve, alike.limit]
  | range span => rfl
  | cell position => rfl
  | constant value => rfl
  | arithmetic expression => rfl
  | invalid failure => rfl

theorem resolveAll_steady (alike : setting.Alike other) (view : View) (depth : Int)
    (keepsErrors : Bool) (arguments : List Argument) (steady : anyVolatile arguments = false) :
    resolveAll setting view depth keepsErrors arguments
      = resolveAll other view depth keepsErrors arguments := by
  cases arguments with
  | nil => rfl
  | cons argument rest =>
    simp only [anyVolatile, Bool.or_eq_false_iff] at steady
    have same := resolve_steady alike view depth keepsErrors argument steady.1
    have later := resolveAll_steady alike view depth keepsErrors rest steady.2
    simp only [resolveAll, same, later]

end

end Argument

theorem evaluateAt_steady (alike : setting.Alike other) (view : View) (depth : Int) (source : Text)
    (steady : (Formula.ofText source).isVolatile = false) :
    evaluateAt setting view depth source = evaluateAt other view depth source := by
  unfold evaluateAt
  cases parsed : Formula.ofText source with
  | plain => rfl
  | blank => simp only [Formula.answer, alike.limit]
  | call name arguments =>
    simp only [parsed, Formula.isVolatile, Bool.or_eq_false_iff] at steady
    have same (keeps : Bool) := Argument.resolveAll_steady alike view depth keeps arguments steady.2
    simp only [Formula.answer, alike.limit, Formula.callFunction_steady alike steady.1 same]
  | expression expression => simp only [Formula.answer, alike.limit]

end Worksheet
