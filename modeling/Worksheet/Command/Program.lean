import Worksheet.Command.CellFile
import Worksheet.Command.Request
import Worksheet.Json.Writer
import Worksheet.Log.Reading
import Worksheet.Sheet.Recalculation
import Worksheet.Sheet.Table

/-! The commands. Each is a program over files that ends with the text to show. -/

namespace Worksheet.Command

structure Surroundings where
  ambient : Ambient
  tables : Table.Library
  stamp : Text

def versionText : Text := "cellcalc, version 0.1.0\n".toList

def CommandName.summary : CommandName → String
  | evaluate => "Evaluate FORMULA and print the result as JSON."
  | recalculate => "Recompute every formula in the CSV GRID and emit display values."
  | functions => "List the built-in formula functions."
  | events => "Show the structured event log for DIRECTORY."

def CommandName.usage : CommandName → String
  | evaluate => "Usage: cellcalc eval [--cells FILE] FORMULA"
  | recalculate => "Usage: cellcalc recalc [--out FILE] GRID"
  | functions => "Usage: cellcalc functions [--json]"
  | events => "Usage: cellcalc events [--level LEVEL] [--type TYPE] [--limit NUMBER] DIRECTORY"

def CommandName.help (command : CommandName) : Text :=
  command.usage.toList ++ "\n\n  ".toList ++ command.summary.toList ++ ['\n']

def helpText : Text :=
  "Usage: cellcalc [--version] [--project-dir DIRECTORY] COMMAND [ARGS]...\n\nCommands:\n".toList
    ++ [CommandName.evaluate, .events, .functions, .recalculate].flatMap fun command =>
      "  ".toList ++ Text.padRight 11 command.text.toList ++ command.summary.toList ++ ['\n']

variable {m : Type → Type} [Monad m] [Files m]

def existingFile (word : Text) : Run m Path := do
  let path := Path.ofText word
  match ← Files.kindOf path with
  | some .file => return path
  | some .folder => throw (.misuse (.notAFile word))
  | none => throw (.misuse (.noSuchFile word))

def existingFolder (word : Text) : Run m Path := do
  let path := Path.ofText word
  match ← Files.kindOf path with
  | some .folder => return path
  | some .file => throw (.misuse (.notAFolder word))
  | none => throw (.misuse (.noSuchFolder word))

/-- The path of a word that may lead to a thing of another kind only by misuse. -/
def freePath (taken : FileKind) (misuse : Misuse) (word : Text) : Run m Path := do
  let path := Path.ofText word
  if (← Files.kindOf path) = some taken then throw (.misuse misuse) else return path

def settle {α : Type} (project : Project) (surroundings : Surroundings) (outcome : Outcome α) :
    Run m α := do
  let _ ← project.report surroundings.stamp outcome.events
  orBreak outcome.result

def answerRecord (answer : Answer) : Value :=
  .record [("value".toList, answer.valueOf),
    ("error".toList, Log.Record.textOrEmpty (answer.errorOf.map ErrorCode.text))]

def isFormulaEntry : Text × Entry → Bool
  | (_, .cell cell) => cell.formula?.isSome
  | _ => false

def readCells : Option Path → Run m Sheet
  | none => return []
  | some path => do
    let text ← orBreak (← Project.readText path)
    match sheetOfText path text with
    | .ok sheet => return sheet
    | .error ending => throw ending

def runEvaluate (project : Project) (surroundings : Surroundings) (formula : Text) (cells : Option Text) :
    Run m Text := do
  let path ← cells.mapM existingFile
  let maxDepth ← orBreak project.configuration.maxDepth
  let setting : Setting := ⟨maxDepth, surroundings.ambient⟩
  let sheet ← readCells path
  let sheet ← if sheet.any isFormulaEntry then settle project surroundings (sheet.recalculate setting)
    else pure sheet
  let answer ← settle project surroundings (evaluate setting sheet.view formula)
  return (← orBreak (Json.write (answerRecord answer))) ++ ['\n']

def runRecalculate (project : Project) (surroundings : Surroundings) (grid : Text) (out : Option Text) :
    Run m Text := do
  let path ← existingFile grid
  let target ← out.mapM fun word => freePath .folder (.notAFile word) word
  let delimiter ← orBreak project.configuration.delimiter
  let complaint (cause : Failure) : Ending := .complaint (.table path cause)
  let text ← orEnd complaint (← Project.readText path)
  let sheet ← orEnd complaint (Sheet.ofTableText surroundings.tables delimiter text)
  let maxDepth ← orBreak project.configuration.maxDepth
  let sheet ← settle project surroundings (sheet.recalculate ⟨maxDepth, surroundings.ambient⟩)
  let table ← orBreak (sheet.toTableText surroundings.tables delimiter)
  match target with
  | none => return table
  | some target => do
    orBreak (← Files.write target (Text.encode table))
    return "Wrote ".toList ++ target.text ++ ['\n']

def builtinRecord (builtin : Builtin) : Value :=
  .record [("name".toList, .text builtin.name), ("flatten".toList, .bool builtin.flattens),
    ("accepts_errors".toList, .bool builtin.acceptsErrors), ("volatile".toList, .bool builtin.volatile)]

def builtinLine (builtin : Builtin) : Text :=
  builtin.name ++ (if builtin.volatile then "  (volatile)".toList else []) ++ ['\n']

def runFunctions (asJson : Bool) : Run m Text := do
  if asJson then
    return (← orBreak (Json.writeIndented 0 (.list (Builtin.sortedByName.map builtinRecord)))) ++ ['\n']
  else return Builtin.sortedByName.flatMap builtinLine

def shownField (fields : Value.Fields) (name : String) : Except Failure Text :=
  ((Field.lookup? fields name).getD (.text [])).plain

def shownLevel (fields : Value.Fields) : Except Failure Text :=
  match (Field.lookup? fields "level").getD (.text []) with
  | .text level => .ok (Text.padRight 7 (Text.upper level))
  | _ => .error .notARecord

def entryLine : Value → Except Failure Text
  | .record fields => do
    let code := (Field.lookup? fields "error_code").getD .empty
    let level ← shownLevel fields
    let stamp ← shownField fields "ts"
    let kind ← shownField fields "event_type"
    let message ← shownField fields "message"
    let suffix ← if code.isPresent then do pure ("  (".toList ++ (← code.plain) ++ [')']) else pure []
    return '[' :: stamp ++ "] ".toList ++ level ++ ' ' :: kind ++ ": ".toList ++ message ++ suffix ++ ['\n']
  | _ => .error .notARecord

def runEvents (folder : Text) (filter : Log.Filter) (limit : Int) : Run m Text := do
  let path ← existingFolder folder
  let log ← orBreak (← EventLog.openIn path Log.defaultWindow)
  let entries ← orBreak (← log.read filter limit)
  if entries.isEmpty then return "No events found.\n".toList
  else return (← orBreak (entries.mapM entryLine)).flatten

def runRequest (project : Project) (surroundings : Surroundings) : Request → Run m Text
  | .help command => pure command.help
  | .evaluate formula cells => runEvaluate project surroundings formula cells
  | .recalculate grid out => runRecalculate project surroundings grid out
  | .functions asJson => runFunctions asJson
  | .events folder level kind limit => runEvents folder ⟨level, kind⟩ limit

def openProject : Option Text → Run m Project
  | none => pure Project.none
  | some word => do
    let path ← freePath .file (.notAFolder word) word
    Project.openIn path

/-- Finds the command and opens the project before the words of the command are read. -/
def runCommand (surroundings : Surroundings) (folder : Option Text) : List Text → Run m Text
  | [] => do
    let _ ← folder.mapM fun word => freePath .file (.notAFolder word) word
    throw (.misuse .missingCommand)
  | name :: arguments =>
    match CommandName.ofText? name with
    | none => throw (.misuse (.unknownCommand name))
    | some command => do
      let project ← openProject folder
      match Request.ofWords command arguments with
      | .ok request => runRequest project surroundings request
      | .error misuse => throw (.misuse misuse)

def run (surroundings : Surroundings) (arguments : List Text) : Run m Text :=
  match Invocation.ofArguments arguments with
  | .error misuse => throw (.misuse misuse)
  | .ok .version => pure versionText
  | .ok .help => pure helpText
  | .ok (.command folder rest) => runCommand surroundings folder rest

end Worksheet.Command
