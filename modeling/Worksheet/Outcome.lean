import Worksheet.Event
import Worksheet.Failure

/-! What a step of an evaluation leaves: the events reported on the way, in order, and a result or the cause of a
failure. A step that follows a failed one does not take place. -/

namespace Worksheet

structure Outcome (α : Type) where
  events : List Event
  result : Except Failure α

namespace Outcome

variable {α β : Type}

def succeed (value : α) : Outcome α := ⟨[], .ok value⟩

def fail (failure : Failure) : Outcome α := ⟨[], .error failure⟩

def ofExcept (result : Except Failure α) : Outcome α := ⟨[], result⟩

def report (event : Event) (value : α) : Outcome α := ⟨[event.cut], .ok value⟩

def andThen (first : Outcome α) (next : α → Outcome β) : Outcome β :=
  match first.result with
  | .ok value =>
    let later := next value
    ⟨first.events ++ later.events, later.result⟩
  | .error failure => ⟨first.events, .error failure⟩

instance : Monad Outcome where
  pure := succeed
  bind := andThen

def recover (first : Outcome α) (handle : Failure → Outcome α) : Outcome α :=
  match first.result with
  | .ok _ => first
  | .error failure =>
    let later := handle failure
    ⟨first.events ++ later.events, later.result⟩

end Outcome

end Worksheet
