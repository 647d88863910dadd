import RustConnect.Base.Program
import RustConnect.Base.Table
import RustConnect.Text

namespace RustConnect

/-- A file of the certificate directory or of the data directory. -/
inductive Path
  | cert (name : String)
  | data (name : String)
  deriving DecidableEq, Repr

/-- What a file holds, before the encoding: a PEM block is kept as the DER it
encodes, and the saved pairings as the map that is written as JSON. -/
inductive FileContent
  | pem (der : Bytes)
  | text (content : String)
  | paired (devices : Table DeviceId Time)
  deriving DecidableEq

abbrev Files := Table Path FileContent

/-- The file operations, each atomic and successful. -/
inductive FileAction
  | exists (path : Path)
  | read (path : Path)
  | write (path : Path) (content : FileContent)
  | remove (path : Path)
  | rename (source target : Path)
  deriving DecidableEq

namespace FileAction

@[reducible] def Answer : FileAction → Type
  | .exists _ => Bool
  | .read _ => Option FileContent
  | .write _ _ => Unit
  | .remove _ => Unit
  | .rename _ _ => Unit

def exec : (action : FileAction) → Files → action.Answer × Files
  | .exists path, files => ((files.lookup path).isSome, files)
  | .read path, files => (files.lookup path, files)
  | .write path content, files => ((), files.insert path content)
  | .remove path, files => ((), files.erase path)
  | .rename source target, files =>
    ((), match files.lookup source with
      | some content => (files.erase source).insert target content
      | none => files)

end FileAction

abbrev FileProgram := Program FileAction FileAction.Answer

namespace FileProgram

def pathExists (path : Path) : FileProgram Bool := Program.call (FileAction.exists path)

def read (path : Path) : FileProgram (Option FileContent) := Program.call (FileAction.read path)

def write (path : Path) (content : FileContent) : FileProgram Unit := Program.call (FileAction.write path content)

def removeFile (path : Path) : FileProgram Unit := Program.call (FileAction.remove path)

def rename (source target : Path) : FileProgram Unit := Program.call (FileAction.rename source target)

/-- `if path.exists() { fs::remove_file(path)? }` -/
def removeIfExists (path : Path) : FileProgram Unit := do
  if ← pathExists path then
    removeFile path

@[simp] theorem run_pathExists (path : Path) (files : Files) :
    Program.run FileAction.exec (pathExists path) files = ((files.lookup path).isSome, files) := (rfl)

@[simp] theorem run_read (path : Path) (files : Files) :
    Program.run FileAction.exec (read path) files = (files.lookup path, files) := (rfl)

@[simp] theorem run_write (path : Path) (content : FileContent) (files : Files) :
    Program.run FileAction.exec (write path content) files = ((), files.insert path content) := (rfl)

@[simp] theorem run_removeIfExists (path : Path) (files : Files) :
    Program.run FileAction.exec (removeIfExists path) files = ((), files.erase path) := by
  cases found : files.lookup path with
  | none => simp [removeIfExists, found, Table.erase_of_absent found]
  | some content => simp [removeIfExists, found]; rfl

end FileProgram

end RustConnect
