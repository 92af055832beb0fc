import Worksheet.Address
import Worksheet.Formula.Evaluation
import Worksheet.Log.Reading
import Worksheet.Yaml.Content

/-! The configuration of a project: a mapping from a YAML document laid over the defaults. Entries of other names are
kept. What an entry has to be is asked when it is used. -/

namespace Worksheet

namespace Value

/-- The whole number that a value stands for. A double loses its fraction, and a text is read. -/
def toWhole : Value → Except Failure Int
  | bool value => .ok (if value then 1 else 0)
  | number value => value.toWhole Double.truncate
  | text value => Text.readInt value
  | _ => .error .wrongKind

end Value

structure Configuration where
  entries : List (Value × Value)

namespace Configuration

inductive Fault where
  | unread (cause : Failure)
  | notAMapping (kind : Text)

def Fault.cause : Fault → Failure
  | unread cause => cause
  | notAMapping _ => .unreadable

def maxDepthName : Text := "max_nesting_depth".toList

def logsEventsName : Text := "logging_enabled".toList

def syncsName : Text := "logging_fsync".toList

def logWindowName : Text := "logging_tail_bytes".toList

def delimiterName : Text := "csv_delimiter".toList

def defaults : Configuration :=
  ⟨[(.text maxDepthName, .integer Setting.defaultDepth), (.text logsEventsName, .bool true),
    (.text syncsName, .bool false), (.text logWindowName, .integer Log.defaultWindow),
    (.text delimiterName, .text [','])]⟩

def lookup? (configuration : Configuration) (name : Text) : Option Value :=
  (configuration.entries.find? fun entry => entry.1.identical (.text name)).map (·.2)

def overlaid (configuration : Configuration) : List (Value × Yaml.Content) → Except Failure Configuration
  | [] => .ok configuration
  | (key, content) :: rest => do
    let value ← content.toValue
    overlaid ⟨Value.putEntry key value configuration.entries⟩ rest

def ofText (text : Text) : Except Fault Configuration :=
  match Yaml.read text with
  | .error cause => .error (.unread cause)
  | .ok (.mapping pairs) =>
    match overlaid defaults pairs with
    | .ok configuration => .ok configuration
    | .error cause => .error (.unread cause)
  | .ok (.sequence items) =>
    if items.isEmpty then .ok defaults else .error (.notAMapping (Value.kindName (.list [])))
  | .ok (.scalar value) => if value.isPresent then .error (.notAMapping value.kindName) else .ok defaults

def entry (configuration : Configuration) (name : Text) : Value :=
  (configuration.lookup? name).getD .empty

def maxDepth (configuration : Configuration) : Except Failure Int :=
  (configuration.entry maxDepthName).toWhole

def delimiter (configuration : Configuration) : Except Failure Text :=
  (configuration.entry delimiterName).plain

def logsEvents (configuration : Configuration) : Bool :=
  (configuration.entry logsEventsName).isPresent

def logWindow (configuration : Configuration) : Except Failure Int :=
  match configuration.entry logWindowName with
  | .empty => .ok Log.defaultWindow
  | value => value.toWhole

end Configuration

end Worksheet
