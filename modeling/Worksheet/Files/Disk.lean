import Worksheet.Files.Basic

/-! A store of files in memory. -/

namespace Worksheet

structure Disk where
  files : List (Path × Bytes)
  folders : List Path

namespace Disk

def content? (disk : Disk) (path : Path) : Option Bytes :=
  (disk.files.find? fun file => file.1 == path).map (·.2)

def kindOf (disk : Disk) (path : Path) : Option FileKind :=
  if path.names.isEmpty ∨ disk.folders.contains path then some .folder
  else if (disk.content? path).isSome then some .file
  else none

def absence (disk : Disk) (path : Path) : Failure :=
  if path.trail.any fun folder => disk.kindOf folder == some .file then .notAFolder else .missingFile

def read (disk : Disk) (path : Path) : Except Failure Bytes :=
  match disk.kindOf path, disk.content? path with
  | some .folder, _ => .error .isAFolder
  | _, some content => .ok content
  | _, none => .error (disk.absence path)

def put (path : Path) (content : Bytes) : List (Path × Bytes) → List (Path × Bytes)
  | [] => [(path, content)]
  | first :: rest => if first.1 = path then (path, content) :: rest else first :: put path content rest

def write (disk : Disk) (path : Path) (content : Bytes) : Except Failure Disk :=
  if disk.kindOf path = some .folder then .error .isAFolder
  else if disk.kindOf path.parent = some .folder then
    .ok { disk with files := put path content disk.files }
  else .error (disk.absence path.parent)

def append (disk : Disk) (path : Path) (content : Bytes) : Except Failure Disk :=
  disk.write path ((disk.content? path).getD [] ++ content)

def makeFolders (disk : Disk) : List Path → Except Failure Disk
  | [] => .ok disk
  | path :: rest =>
    match disk.kindOf path with
    | some .file => .error (if rest.isEmpty then .fileInTheWay else .notAFolder)
    | some .folder => makeFolders disk rest
    | none => makeFolders { disk with folders := path :: disk.folders } rest

def makeFolder (disk : Disk) (path : Path) : Except Failure Disk :=
  disk.makeFolders path.trail

def change (edit : Disk → Except Failure Disk) : StateM Disk (Except Failure Unit) := do
  match edit (← get) with
  | .ok disk => do
    set disk
    return .ok ()
  | .error failure => return .error failure

instance : Files (StateM Disk) where
  kindOf path := do return (← get).kindOf path
  read path := do return (← get).read path
  write path content := change (·.write path content)
  append path content := change (·.append path content)
  makeFolder path := change (·.makeFolder path)

end Disk

end Worksheet
