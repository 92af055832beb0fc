import Worksheet.Command.Ending
import Worksheet.Configuration
import Worksheet.Files.Basic
import Worksheet.Log.Reading
import Worksheet.Log.Record

/-! Projects: a folder with a configuration and, unless that says otherwise, a log of events. A log that cannot be
written never stops a command. -/

namespace Worksheet.Command

structure EventLog where
  path : Path
  window : Int

structure Project where
  configuration : Configuration
  log : Option EventLog

namespace Project

def configurationName : String := "cellcalc.yaml"

def logFolderName : String := "logs"

def logName : String := "events.ndjson"

def none : Project := ⟨Configuration.defaults, Option.none⟩

def logFolder (folder : Path) : Path := folder.child logFolderName

def logPath (folder : Path) : Path := (logFolder folder).child logName

end Project

variable {m : Type → Type} [Monad m] [Files m]

namespace EventLog

def openIn (folder : Path) (window : Int) : m (Except Failure EventLog) := do
  match ← Files.makeFolder (Project.logFolder folder) with
  | .ok _ => return .ok ⟨Project.logPath folder, window⟩
  | .error cause => return .error cause

def write (log : EventLog) (record : Log.Record) : m (Except Failure Unit) :=
  match record.bytes with
  | .ok bytes => Files.append log.path bytes
  | .error cause => pure (.error cause)

def content (log : EventLog) : m (Except Failure Bytes) := do
  match ← Files.kindOf log.path with
  | none => return .ok []
  | some _ => Files.read log.path

def read (log : EventLog) (filter : Log.Filter) (limit : Int) : m (Except Failure (List Value)) := do
  match ← log.content with
  | .ok content => return Log.read log.window filter limit content
  | .error cause => return .error cause

end EventLog

namespace Project

def readText (path : Path) : m (Except Failure Text) := do
  match ← Files.read path with
  | .ok content => return Text.decodeExactly content
  | .error cause => return .error cause

def readConfiguration (folder : Path) : m (Except Configuration.Fault Configuration) := do
  let path := folder.child configurationName
  match ← Files.kindOf path with
  | Option.none => return .ok Configuration.defaults
  | some _ =>
    match ← readText path with
    | .ok text => return Configuration.ofText text
    | .error cause => return .error (.unread cause)

def openLog (folder : Path) (configuration : Configuration) : m (Except Failure (Option EventLog)) := do
  if configuration.logsEvents then
    match configuration.logWindow with
    | .error cause => return .error cause
    | .ok window => return (← EventLog.openIn folder window).map some
  else return .ok Option.none

def openIn (folder : Path) : Run m Project := do
  let configuration ←
    match ← readConfiguration folder with
    | .ok configuration => pure configuration
    | .error fault =>
      throw (Ending.complaint (.configuration (folder.child configurationName) fault))
  orBreak (← Files.makeFolder folder)
  let log ← orBreak (← openLog folder configuration)
  return ⟨configuration, log⟩

/-- Keeps events in the log, if there is one; tells whether all of them could be kept. -/
def report (project : Project) (stamp : Text) : List Event → m Bool
  | [] => pure true
  | event :: rest => do
    let kept ←
      match project.log with
      | Option.none => pure true
      | some log =>
        match ← log.write (Log.Record.ofEvent stamp event) with
        | .ok _ => pure true
        | .error _ => pure false
    let others ← report project stamp rest
    return kept && others

end Project

end Worksheet.Command
