import Worksheet.Failure
import Worksheet.Value.Coercion

/-! What a built-in function is: a name, the way it is called and what it computes. Most functions take the values of
their ranges one by one and are not called at all when one of the arguments is an error code. -/

namespace Worksheet

/-- What a result may depend on beside the arguments. -/
structure Ambient where
  epochMilliseconds : Int
  /-- Stands for all numbers that are drawn while a formula is evaluated. -/
  seed : Nat
  zone : Zone

structure Builtin where
  name : Text
  /-- Ranges are opened: their values stand among the arguments. -/
  flattens : Bool
  /-- Error codes reach the function as arguments. -/
  acceptsErrors : Bool
  /-- Equal arguments may have different results. -/
  volatile : Bool
  run : Ambient → List Value → Except Failure Value

namespace Builtin

def plain (name : String) (run : List Value → Except Failure Value) : Builtin :=
  ⟨name.toList, true, false, false, fun _ => run⟩

def overRanges (name : String) (run : List Value → Except Failure Value) : Builtin :=
  ⟨name.toList, false, false, false, fun _ => run⟩

def errorAware (name : String) (run : List Value → Except Failure Value) : Builtin :=
  ⟨name.toList, true, true, false, fun _ => run⟩

def ofDates (name : String) (run : Zone → List Value → Except Failure Value) : Builtin :=
  ⟨name.toList, true, false, false, fun ambient => run ambient.zone⟩

def changing (name : String) (run : Ambient → List Value → Except Failure Value) : Builtin :=
  ⟨name.toList, true, false, true, run⟩

def bad (name : Text) (complaint : String) : Failure :=
  .badCall name (name ++ ' ' :: complaint.toList)

def noun (count : Int) : String :=
  if count = 1 then "argument" else "arguments"

def checkCount (name : Text) (count : Nat) (least : Int) (greatest : Option Int) : Except Failure Unit :=
  if least ≤ count ∧ greatest.all ((count : Int) ≤ ·) then .ok ()
  else
    .error (bad name (match greatest with
      | none => s!"requires at least {least} {noun least}"
      | some greatest =>
        if greatest = least then s!"requires exactly {least} {noun least}"
        else s!"requires {least}-{greatest} arguments"))

def require (name : String) (arguments : List Value) (least greatest : Nat) : Except Failure Unit :=
  checkCount name.toList arguments.length least (some greatest)

def requireAtLeast (name : String) (arguments : List Value) (least : Nat) : Except Failure Unit :=
  checkCount name.toList arguments.length least none

def argument (arguments : List Value) (index : Nat) : Value :=
  arguments.getD index .empty

section

variable (name : String) {arguments : List Value} {least greatest : Nat}

theorem require_of_within (enough : least ≤ arguments.length) (few : arguments.length ≤ greatest) :
    require name arguments least greatest = .ok () := by
  refine if_pos ⟨?_, decide_eq_true ?_⟩
  · omega
  · omega

theorem require_of_outside (outside : ¬(least ≤ arguments.length ∧ arguments.length ≤ greatest)) :
    ∃ failure, require name arguments least greatest = .error failure := by
  have refused : ¬((least : Int) ≤ arguments.length ∧
      (some (greatest : Int)).all ((arguments.length : Int) ≤ ·) = true) := by
    simp only [Option.all_some, decide_eq_true_eq]
    omega
  exact ⟨_, if_neg refused⟩

theorem requireAtLeast_of_le (enough : least ≤ arguments.length) : requireAtLeast name arguments least = .ok () := by
  refine if_pos ⟨?_, rfl⟩
  omega

end

end Builtin

end Worksheet
