import Worksheet.Command.Program

/-! The program: the commands over the files of the machine, whose clocks are taken to show universal time. -/

namespace Worksheet.Program

def failureOf : IO.Error → Failure
  | .alreadyExists .. => .fileInTheWay
  | .inappropriateType .. => .notAFolder
  | _ => .missingFile

def attempt {α : Type} (action : IO α) : IO (Except Failure α) := do
  try
    return .ok (← action)
  catch error =>
    return .error (failureOf error)

def leadsSomewhere (name : String) : IO Bool := do
  try
    let _ ← IO.FS.realPath name
    return true
  catch _ =>
    return false

def nameOf (path : Path) : String := Text.toString path.text

instance : Files IO where
  kindOf path := do
    let name := nameOf path
    if ← leadsSomewhere (name ++ "/.") then return some .folder
    else if ← leadsSomewhere name then return some .file
    else return none
  read path := attempt do return (← IO.FS.readBinFile (nameOf path)).toList
  write path content := attempt (IO.FS.writeBinFile (nameOf path) ⟨content.toArray⟩)
  append path content := attempt do
    let handle ← IO.FS.Handle.mk (nameOf path) .append
    handle.write ⟨content.toArray⟩
  makeFolder path := attempt (IO.FS.createDirAll (nameOf path))

def readClock : IO Int := do
  let (handle, file) ← IO.FS.createTempFile
  handle.write ⟨#[0]⟩
  handle.flush
  let time := (← file.metadata).modified
  IO.FS.removeFile file
  return time.sec * 1000000 + time.nsec.toNat / 1000

def readSurroundings : IO Command.Surroundings := do
  let now ← readClock
  let seed := (← IO.getRandomBytes 8).toList.foldl (fun seed byte => 256 * seed + byte.toNat) 0
  return ⟨⟨now / 1000, seed, .utc⟩, .standard, Log.stampAt now⟩

end Worksheet.Program

open Worksheet in
def main (arguments : List String) : IO UInt32 := do
  let surroundings ← Program.readSurroundings
  let command : Command.Run IO Text := Command.run surroundings (arguments.map String.toList)
  match ← command.run with
  | .ok text =>
    IO.print (Text.toString text)
    return 0
  | .error ending =>
    IO.eprintln (Text.toString ending.message)
    return ending.exitCode.toUInt32
