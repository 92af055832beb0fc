import Worksheet.Failure
import Worksheet.Text.Basic
import Worksheet.Text.Utf8

/-! Files and the paths that lead to them. A path is a list of names from the root or from the working folder; in the
written form names are parted by slashes, of which several count as one, and a dot that stands alone leads nowhere. A
store of files held in memory and the files of a machine offer the same operations, so that a command is one program
over both. -/

namespace Worksheet

structure Path where
  fromRoot : Bool
  names : List Text
  deriving DecidableEq

namespace Path

def ofText (text : Text) : Path where
  fromRoot := text.head? = some '/'
  names := (Text.splitOn ['/'] text).filter fun name => !name.isEmpty && name != ['.']

def text (path : Path) : Text :=
  if path.fromRoot then '/' :: Text.join ['/'] path.names
  else if path.names.isEmpty then ['.']
  else Text.join ['/'] path.names

def child (path : Path) (name : String) : Path :=
  { path with names := path.names ++ [name.toList] }

def parent (path : Path) : Path :=
  { path with names := path.names.dropLast }

/-- The folders passed through from the start to the path, itself included. -/
def trail (path : Path) : List Path :=
  (List.range path.names.length).map fun count => { path with names := path.names.take (count + 1) }

end Path

inductive FileKind where
  | file
  | folder
  deriving DecidableEq

class Files (m : Type → Type) where
  kindOf : Path → m (Option FileKind)
  read : Path → m (Except Failure Bytes)
  write : Path → Bytes → m (Except Failure Unit)
  /-- Puts bytes behind the content of a file, which is made if it is not there. -/
  append : Path → Bytes → m (Except Failure Unit)
  makeFolder : Path → m (Except Failure Unit)

end Worksheet
