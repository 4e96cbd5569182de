import MachineCompiler.Path.Basic
import MachineCompiler.Text.Lowercase

/-!
# Program names

The identity of a source file or of a generated artifact: an absolute path in normal form. No file
system is asked for it, so a name may belong to something that does not exist yet. Two names are
the same program when their paths agree up to letter case; the spelling is kept for display.
-/

namespace MachineCompiler

open Text

/-- The name of a program: the entries on the way from the root directory to it. -/
structure ProgramName where
  segments : List Path.Segment
deriving DecidableEq

namespace ProgramName

/-- Why a path names no program. -/
inductive Error where
  | empty
  | notAbsolute (path : Path)
deriving DecidableEq

/-- The text of an error. -/
def Error.message : Error → String
  | .empty => "program name is empty"
  | .notAbsolute path => "'" ++ path.shown ++ "' is not an absolute path"

/-- One component walked from the directory reached so far. Above the root directory is the root
directory. -/
def walk (reached : List Path.Segment) : Path.Component → List Path.Segment
  | .here => reached
  | .up => reached.dropLast
  | .entry name => reached ++ [name]

/-- The program at an absolute path. -/
def ofPath (path : Path) : Except Error ProgramName :=
  if path.pieces.isEmpty then .error .empty
  else if path.isAbsolute then .ok ⟨path.components.foldl walk []⟩
  else .error (.notAbsolute path)

/-- The program that `path` names in the directory `base`. -/
def resolve (base path : Path) : Except Error ProgramName :=
  if path.pieces.isEmpty then .error .empty else ofPath (base.join path)

/-- The path in normal form. -/
def path (name : ProgramName) : Path :=
  Path.through name.segments

/-- The path, shown as text. -/
def shown (name : ProgramName) : String :=
  name.path.shown

/-- The text that decides identity and order: the shown path in lower case. -/
def key (name : ProgramName) : String :=
  lowercase name.shown

/-- The directory that holds the program; the root directory for itself. -/
def directory (name : ProgramName) : Path :=
  Path.through name.segments.dropLast

/-- The last component of the path. The root directory is called by its path. -/
def fileName (name : ProgramName) : String :=
  match name.segments.getLast? with
  | some segment => segment.shown
  | none => name.shown

/-- The last component without its extension. -/
def fileStem (name : ProgramName) : String :=
  match name.segments.getLast? with
  | some segment => Utf8.shown (Path.stem segment.pieces)
  | none => name.fileName

/-- The same program: equal keys. -/
instance : BEq ProgramName where
  beq a b := a.key == b.key

/-- Names are ordered by their keys. -/
instance : Ord ProgramName where
  compare a b := compare a.key b.key

instance : ToString ProgramName where
  toString := shown

end ProgramName

end MachineCompiler
