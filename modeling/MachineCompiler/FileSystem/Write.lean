import MachineCompiler.FileSystem.Basic

/-!
# Changing a file system

Writing a file makes the directories above it and replaces what the file held. Directories stay
when a later part of the same operation fails. Running a program changes no file.
-/

namespace MachineCompiler.FileSystem

/-- Make one directory. The directory above has to exist. -/
def makeDirectory (files : FileSystem) (path : Path) : Except FileError FileSystem :=
  match files.locate path with
  | .error error => .error error
  | .ok location =>
    match files.node? location with
    | some _ => .error .alreadyExists
    | none => .ok (files.put location .directory)

/-- The path leads to a directory. -/
def isDirectory (files : FileSystem) (path : Path) : Bool :=
  match files.find path with
  | .ok (_, .directory) => true
  | _ => false

/-- Make a directory that may be there already. -/
def ensureDirectory (files : FileSystem) (path : Path) : Option FileError × FileSystem :=
  match files.makeDirectory path with
  | .ok files => (none, files)
  | .error error => if files.isDirectory path then (none, files) else (some error, files)

/-- Make a directory together with the missing ones above it; the paths lead to the directory and
to those above it, each one behind the one below it. The directories above are made only when the
directory itself cannot be made for want of them. -/
def makeDirectories (files : FileSystem) :
    (upwards : List Path) → Option FileError × FileSystem
  | [] => (none, files)
  | path :: above =>
    match files.ensureDirectory path with
    | (some .notFound, _) =>
      match files.makeDirectories above with
      | (some error, files) => (some error, files)
      | (none, files) => files.ensureDirectory path
    | outcome => outcome

/-- The place of the file that a path leads to, or that can be made there. What comes before a
separator is a directory, even if there is none: its name is not looked at. -/
def placeToWrite (files : FileSystem) (path : Path) : Except FileError Location :=
  if path.endsInSeparator then
    (files.locateBy path (path.components.dropLast ++ [.here])).bind fun _ => .error .isADirectory
  else files.locate path

/-- Replace the text of the file that a path leads to, or make the file. Its directory has to
exist. -/
def writeText (files : FileSystem) (path : Path) (text : String) : Except FileError FileSystem :=
  match files.placeToWrite path with
  | .error error => .error error
  | .ok location =>
    match files.node? location with
    | some .directory => .error .isADirectory
    | held => .ok (files.put location (Node.over (.file (.text text) .plain) held))

/-- Write a file together with the missing directories above it. -/
def save (files : FileSystem) (path : Path) (text : String) : Option FileError × FileSystem :=
  match files.makeDirectories path.directoriesAbove.reverse with
  | (some error, files) => (some error, files)
  | (none, files) =>
    match files.writeText path text with
    | .error error => (some error, files)
    | .ok files => (none, files)

/-- Run the program that a path leads to. A path of a single name is looked for among the installed
commands, and there are none. -/
def launch (files : FileSystem) (path : Path) (arguments : List Path) :
    Except FileError ToolReport :=
  if (path :: arguments).any (·.pieces.contains (.char '\x00')) then .error .nulInArgument
  else if !path.pieces.contains Path.separator then .error .notFound
  else
    match files.find path with
    | .error error => .error error
    | .ok (_, .directory) => .error .permissionDenied
    | .ok (_, .file _ .plain) => .error .permissionDenied
    | .ok (_, .file _ .executable) => .error .notExecutableFormat
    | .ok (_, .file _ (.program tool)) => .ok (tool.run files.snapshot (arguments.map Path.shown))

end MachineCompiler.FileSystem
