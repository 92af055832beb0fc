import Worksheet.Address
import Worksheet.Command.Option
import Worksheet.Event

/-! What a command line asks for: words for the program itself, then the name of a command and its words. -/

namespace Worksheet.Command

inductive CommandName where
  | evaluate
  | recalculate
  | functions
  | events
  deriving DecidableEq

inductive Request where
  | help (command : CommandName)
  | evaluate (formula : Text) (cells : Option Text)
  | recalculate (grid : Text) (out : Option Text)
  | functions (asJson : Bool)
  | events (folder : Text) (level kind : Option Text) (limit : Int)

namespace CommandName

def text : CommandName → String
  | evaluate => "eval"
  | recalculate => "recalc"
  | functions => "functions"
  | events => "events"

def ofText? (name : Text) : Option CommandName :=
  [evaluate, recalculate, functions, events].find? fun command => command.text.toList == name

def helpForm : OptionForm := ⟨"--help".toList, false⟩

def forms : CommandName → List OptionForm
  | evaluate => [⟨"--cells".toList, true⟩, helpForm]
  | recalculate => [⟨"--out".toList, true⟩, helpForm]
  | functions => [⟨"--json".toList, false⟩, helpForm]
  | events => [⟨"--level".toList, true⟩, ⟨"--type".toList, true⟩, ⟨"--limit".toList, true⟩, helpForm]

end CommandName

namespace Request

def defaultLimit : Int := 100

def single (name : String) : List Text → Except Misuse Text
  | [] => .error (.missingArgument name.toList)
  | [word] => .ok word
  | _ :: extra :: _ => .error (.extraArgument extra)

def noArgument : List Text → Except Misuse Unit
  | [] => .ok ()
  | extra :: _ => .error (.extraArgument extra)

def readLevel (words : Words) : Except Misuse (Option Text) :=
  match words.valueOf? "--level" with
  | none => .ok none
  | some level =>
    if (EventLevel.ofText? level).isSome then .ok (some level)
    else .error (.badChoice "--level".toList level)

def readLimit (words : Words) : Except Misuse Int :=
  match words.valueOf? "--limit" with
  | none => .ok defaultLimit
  | some limit =>
    match Text.readInt limit with
    | .ok number => .ok number
    | .error _ => .error (.badChoice "--limit".toList limit)

def ofWords (command : CommandName) (arguments : List Text) : Except Misuse Request := do
  let words ← Words.read command.forms true arguments
  if words.has "--help" then return .help command
  match command with
  | .evaluate => return .evaluate (← single "FORMULA" words.others) (words.valueOf? "--cells")
  | .recalculate => return .recalculate (← single "GRID" words.others) (words.valueOf? "--out")
  | .functions => do
    noArgument words.others
    return .functions (words.has "--json")
  | .events =>
    return .events (← single "DIRECTORY" words.others) (← readLevel words) (words.valueOf? "--type")
      (← readLimit words)

end Request

inductive Invocation where
  | version
  | help
  | command (project : Option Text) (rest : List Text)

namespace Invocation

def forms : List OptionForm :=
  [⟨"--version".toList, false⟩, ⟨"--project-dir".toList, true⟩, CommandName.helpForm]

/-- What to show instead of running a command: the first of the options that ask for it decides. -/
def display? (words : Words) : Option Invocation :=
  words.options.findSome? fun option =>
    if option.1 = "--version".toList then some version
    else if option.1 = "--help".toList then some help
    else none

def ofArguments (arguments : List Text) : Except Misuse Invocation := do
  if arguments.isEmpty then throw .missingCommand
  let words ← Words.read forms false arguments
  return (display? words).getD (command (words.valueOf? "--project-dir") words.others)

end Invocation

end Worksheet.Command
