import MachineCompiler.Path.Basic

/-!
# File systems

A file system as a value: the entries below the root directory and the current directory. A path is
followed component by component, and every directory on the way has to exist. There are no links,
so an entry is at one place only, and that place is the list of names on the way to it.
-/

namespace MachineCompiler

open Text

/-- Why an operation on files was refused. -/
inductive FileError where
  | notFound
  | permissionDenied
  | alreadyExists
  | notADirectory
  | isADirectory
  | nameTooLong
  | notExecutableFormat
  | notText
  | nulInPath
  | nulInArgument
  | other (text : String)
deriving DecidableEq, Repr

/-- The text of a refusal, as the operating system words it. -/
def FileError.message : FileError → String
  | .notFound => "No such file or directory (os error 2)"
  | .permissionDenied => "Permission denied (os error 13)"
  | .alreadyExists => "File exists (os error 17)"
  | .notADirectory => "Not a directory (os error 20)"
  | .isADirectory => "Is a directory (os error 21)"
  | .nameTooLong => "File name too long (os error 36)"
  | .notExecutableFormat => "Exec format error (os error 8)"
  | .notText => "stream did not contain valid UTF-8"
  | .nulInPath => "file name contained an unexpected NUL byte"
  | .nulInArgument => "nul byte found in provided data"
  | .other text => text

/-- The place of an entry: the names on the way from the root directory. -/
abbrev Location := List Path.Segment

/-- What a file holds: a text, or bytes that are no text. -/
inductive Contents where
  | text (value : String)
  | binary (bytes : List UInt8)
deriving DecidableEq

/-- The contents that some bytes make. -/
def Contents.ofBytes (bytes : List UInt8) : Contents :=
  match Utf8.text? bytes with
  | some value => .text value
  | none => .binary bytes

/-- The text shown for contents. -/
def Contents.shown : Contents → String
  | .text value => value
  | .binary bytes => Utf8.shownBytes bytes

/-- What an external program reports: whether it succeeded, and what it printed. -/
structure ToolReport where
  succeeded : Bool
  output : String

/-- An external program. What it reports depends on the files that it finds and on its
arguments. -/
structure Tool where
  run : List (Location × Contents) → List String → ToolReport

/-- How a file may be used: it is only read, it may be run but is no program, or it is a program. -/
inductive Mode where
  | plain
  | executable
  | program (tool : Tool)

/-- The mode of a file that was written to. It may be run as before, but is no program any more. -/
def Mode.rewritten : Mode → Mode
  | .plain => .plain
  | _ => .executable

/-- An entry of a directory. -/
inductive Node where
  | directory
  | file (contents : Contents) (mode : Mode)

/-- The entry that takes the place of another one. Of a file that is there, a file that would only
be read takes over whether it may be run. -/
def Node.over (node : Node) (held : Option Node) : Node :=
  match node, held with
  | .file contents .plain, some (.file _ mode) => .file contents mode.rewritten
  | node, _ => node

/-- The entries below the root directory, and the current directory. -/
structure FileSystem where
  entries : List (Location × Node)
  currentDirectory : Location

namespace FileSystem

/-- The entry at a place. The root directory is always there. -/
def node? (files : FileSystem) (location : Location) : Option Node :=
  if location.isEmpty then some .directory else files.entries.lookup location

/-- Put an entry at a place. -/
def put (files : FileSystem) (location : Location) (node : Node) : FileSystem :=
  { files with
    entries := files.entries.filter (·.1 != location) ++ [(location, node)] }

/-- Remove an entry and everything below it. -/
def remove (files : FileSystem) (location : Location) : FileSystem :=
  { files with entries := files.entries.filter fun entry => !location.isPrefixOf entry.1 }

/-- The contents of all files. -/
def snapshot (files : FileSystem) : List (Location × Contents) :=
  files.entries.filterMap fun entry =>
    match entry.2 with
    | .file contents _ => some (entry.1, contents)
    | .directory => none

/-- The longest name that an entry can have, in bytes. -/
def longestName : Nat := 255

/-- The longest path that can be followed, in bytes. -/
def longestPath : Nat := 4095

/-- One component followed from the place reached so far, which has to be a directory. The place of
a named entry is reached whether or not there is an entry. -/
def follow (files : FileSystem) (reached : Location) (component : Path.Component) :
    Except FileError Location :=
  match files.node? reached with
  | none => .error .notFound
  | some (.file _ _) => .error .notADirectory
  | some .directory =>
    match component with
    | .here => .ok reached
    | .up => .ok reached.dropLast
    | .entry name =>
      if longestName < (name.pieces.map Piece.size).foldl (· + ·) 0 then .error .nameTooLong
      else .ok (reached ++ [name])

/-- The place where a path begins. -/
def origin (files : FileSystem) (path : Path) : Location :=
  if path.isAbsolute then [] else files.currentDirectory

/-- Why a path is not followed at all, if it is not. -/
def refusal? (path : Path) : Option FileError :=
  if path.pieces.contains (.char '\x00') then some .nulInPath
  else if path.pieces.isEmpty then some .notFound
  else if longestPath < path.size then some .nameTooLong
  else none

/-- The place that some components of a path lead to. -/
def locateBy (files : FileSystem) (path : Path) (components : List Path.Component) :
    Except FileError Location :=
  match refusal? path with
  | some error => .error error
  | none => components.foldlM files.follow (files.origin path)

/-- The place that a path leads to. -/
def locate (files : FileSystem) (path : Path) : Except FileError Location :=
  files.locateBy path path.components

/-- The entry that a path leads to. A path that ends in a separator leads to a directory only. -/
def find (files : FileSystem) (path : Path) : Except FileError (Location × Node) :=
  match files.locate path with
  | .error error => .error error
  | .ok location =>
    match files.node? location with
    | none => .error .notFound
    | some .directory => .ok (location, .directory)
    | some node => if path.endsInSeparator then .error .notADirectory else .ok (location, node)

/-- The path leads to a file. -/
def isFile (files : FileSystem) (path : Path) : Bool :=
  match files.find path with
  | .ok (_, .file _ _) => true
  | _ => false

/-- The text of the file that a path leads to, and the place of the file. -/
def openText (files : FileSystem) (path : Path) : Except FileError (Location × String) :=
  match files.find path with
  | .error error => .error error
  | .ok (_, .directory) => .error .isADirectory
  | .ok (location, .file (.text value) _) => .ok (location, value)
  | .ok (_, .file (.binary _) _) => .error .notText

/-- The text of the file that a path leads to. -/
def readText (files : FileSystem) (path : Path) : Except FileError String :=
  (files.openText path).map Prod.snd

/-- What is found at a place is an entry. -/
theorem mem_entries_of_lookup {entries : List (Location × Node)} {location : Location}
    {node : Node} (h : entries.lookup location = some node) : (location, node) ∈ entries := by
  obtain ⟨before, after, rfl, -⟩ := List.lookup_eq_some_iff.1 h
  simp

/-- A text that was read is the contents of a file at its place. -/
theorem mem_snapshot_of_openText {files : FileSystem} {path : Path} {location : Location}
    {text : String} (h : files.openText path = .ok (location, text)) :
    (location, Contents.text text) ∈ files.snapshot := by
  unfold openText at h
  split at h <;> try contradiction
  rename_i place value mode found
  cases h
  unfold find at found
  split at found
  · contradiction
  · rename_i place' located
    have entry : files.node? place' = some (.file (.text text) mode) ∧ place' = location := by
      split at found
      · contradiction
      · simp at found
      · rename_i node _ here
        split at found
        · contradiction
        · simp only [Except.ok.injEq, Prod.mk.injEq] at found
          exact ⟨found.2 ▸ here, found.1⟩
    obtain ⟨entry, rfl⟩ := entry
    unfold node? at entry
    split at entry
    · simp at entry
    · exact List.mem_filterMap.2 ⟨_, mem_entries_of_lookup entry, rfl⟩

end FileSystem

end MachineCompiler
