import Worksheet.Command.Option
import Worksheet.Configuration
import Worksheet.Files.Basic
import Worksheet.Text.Printable

/-! How a command ends: with output, with a complaint about what it was given, with a misuse of the command line, or
broken off by a failure. -/

namespace Worksheet.Command

inductive Complaint where
  | configuration (path : Path) (fault : Configuration.Fault)
  | cells (path : Path) (cause : Failure)
  | noCells (path : Path)
  | cellKey (key : Text)
  | table (path : Path) (cause : Failure)

namespace Complaint

/-- The complaint up to its cause, and the cause, if another operation found one. -/
def parts : Complaint → Text × Option Failure
  | configuration _ (.unread cause) => ("Cannot read project config".toList, some cause)
  | configuration path (.notAMapping kind) =>
    ("Cannot read project config: ".toList ++ path.text ++ " must contain a mapping, got ".toList ++ kind,
      none)
  | cells path cause => ("Cannot parse ".toList ++ path.text, some cause)
  | noCells path => (path.text ++ " must contain a mapping of cells".toList, none)
  | cellKey key => ("Invalid cell key: ".toList ++ Text.quoted key, none)
  | table path cause => ("Cannot read ".toList ++ path.text, some cause)

def message (complaint : Complaint) : Text :=
  match complaint.parts with
  | (subject, some cause) => subject ++ ": ".toList ++ cause.label
  | (subject, none) => subject

end Complaint

inductive Ending where
  | complaint (complaint : Complaint)
  | misuse (misuse : Misuse)
  | broken (cause : Failure)

namespace Ending

def message : Ending → Text
  | complaint found => "Error: ".toList ++ found.message
  | misuse found => "Error: ".toList ++ found.message
  | broken cause => cause.label

def exitCode : Ending → Nat
  | misuse _ => 2
  | _ => 1

end Ending

abbrev Run (m : Type → Type) (α : Type) := ExceptT Ending m α

variable {m : Type → Type} [Monad m] {α : Type}

instance [Files m] : Files (Run m) where
  kindOf path := ExceptT.lift (Files.kindOf path)
  read path := ExceptT.lift (Files.read path)
  write path content := ExceptT.lift (Files.write path content)
  append path content := ExceptT.lift (Files.append path content)
  makeFolder path := ExceptT.lift (Files.makeFolder path)

def orEnd (ending : Failure → Ending) : Except Failure α → Run m α
  | .ok found => pure found
  | .error cause => throw (ending cause)

def orBreak (result : Except Failure α) : Run m α :=
  orEnd .broken result

end Worksheet.Command
