import MachineCompiler.FileSystem.Basic
import MachineCompiler.ProgramName

/-!
# Laying out files

A file system is laid out by putting entries where paths spell them, without asking what is on the
way, and two file systems are compared by the files that differ.
-/

namespace MachineCompiler.FileSystem

/-- The place that a path spells, whatever is on the way there. -/
def placeOf (files : FileSystem) (path : Path) : Location :=
  path.components.foldl ProgramName.walk (files.origin path)

/-- Put an entry where a path spells it, in the place of what is there, with directories above it
where there is nothing. -/
def lay (files : FileSystem) (path : Path) (node : Node) : FileSystem :=
  let location := files.placeOf path
  let above := (List.range location.length).map location.take
  let files := above.foldl (fun files directory =>
    if (files.node? directory).isSome then files else files.put directory .directory) files
  files.put location (node.over (files.node? location))

/-- Remove what is where a path spells it. -/
def clear (files : FileSystem) (path : Path) : FileSystem :=
  files.remove (files.placeOf path)

/-- The file system with nothing but a current directory. -/
def inDirectory (directory : Path) : FileSystem :=
  let files := lay ⟨[], []⟩ directory .directory
  { files with currentDirectory := files.placeOf directory }

/-- The files that are new or hold something else than in `before`. -/
def changesSince (files before : FileSystem) : List (Location × Contents) :=
  let held := before.snapshot
  files.snapshot.filter fun (location, contents) => held.lookup location != some contents

/-- The path to a place from a directory above it. -/
def pathBelow (directory location : Location) : Option String :=
  if directory.isPrefixOf location then
    some (String.intercalate "/" ((location.drop directory.length).map Path.Segment.shown))
  else none

end MachineCompiler.FileSystem
