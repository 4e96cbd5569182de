import MachineCompiler.Text.Utf8
import MachineCompiler.Text.Words

/-!
# Paths

A path is a sequence of pieces, separated into components by slashes. Everything here is lexical:
no file system is asked. A component is the name of an entry, or one of the two that name no entry
of their own: `.` for the same directory and `..` for the one above.
-/

namespace MachineCompiler

open Text

/-- A path, as it was written. -/
structure Path where
  pieces : List Piece
deriving DecidableEq, Repr, Inhabited

namespace Path

/-- The character between components. -/
def separator : Piece := .char '/'

/-- The component for the same directory. -/
def dot : List Piece := [.char '.']

/-- The component for the directory above. -/
def dotDot : List Piece := [.char '.', .char '.']

/-- A name that an entry of a directory can have: not empty, without a slash, and neither `.` nor
`..`. -/
def IsProperName (pieces : List Piece) : Prop :=
  pieces ≠ [] ∧ pieces ≠ dot ∧ pieces ≠ dotDot ∧ separator ∉ pieces

instance (pieces : List Piece) : Decidable (IsProperName pieces) :=
  inferInstanceAs (Decidable (_ ∧ _ ∧ _ ∧ _))

/-- The name of an entry. -/
structure Segment where
  pieces : List Piece
  proper : IsProperName pieces
deriving DecidableEq

/-- The text shown for the name of an entry. -/
def Segment.shown (segment : Segment) : String :=
  Utf8.shown segment.pieces

/-- A component of a path. -/
inductive Component where
  | here
  | up
  | entry (name : Segment)
deriving DecidableEq

/-- What stands between two separators. Nothing stands between adjacent ones. -/
def Component.ofPart? (part : List Piece) : Option Component :=
  if part = dot then some .here
  else if part = dotDot then some .up
  else if proper : IsProperName part then some (.entry ⟨part, proper⟩)
  else none

/-- The path that a text spells. -/
def ofString (text : String) : Path :=
  ⟨text.toList.map .char⟩

/-- The path that bytes spell. -/
def ofBytes (bytes : List UInt8) : Path :=
  ⟨Utf8.decode bytes⟩

/-- The text shown for a path. -/
def shown (path : Path) : String :=
  Utf8.shown path.pieces

/-- The number of bytes of a path. -/
def size (path : Path) : Nat :=
  (path.pieces.map Piece.size).foldl (· + ·) 0

/-- An absolute path begins with a separator. -/
def isAbsolute (path : Path) : Bool :=
  path.pieces.head? == some separator

/-- The path ends with a separator. -/
def endsInSeparator (path : Path) : Bool :=
  path.pieces.getLast? == some separator

/-- The components of a path, `.` included. -/
def components (path : Path) : List Component :=
  (splitWhere (· == separator) path.pieces).filterMap Component.ofPart?

/-- A component that stands for a step to another directory. -/
def Component.isStep : Component → Bool
  | .here => false
  | _ => true

/-- The directories above what a path leads to, from the first one on: the path up to each of its
steps but the last, as it was written. -/
def directoriesAbove (path : Path) : List Path :=
  let parts := splitWhere (· == separator) path.pieces
  let steps := parts.zipIdx.filter fun part => (Component.ofPart? part.1).any Component.isStep
  steps.dropLast.map fun step => ⟨List.intercalate [separator] (parts.take (step.2 + 1))⟩

/-- `path` as seen from the directory `base`: an absolute path stands for itself, and a relative
one is put behind the base and a separator. -/
def join (base path : Path) : Path :=
  if path.isAbsolute then path
  else if base.pieces.isEmpty || base.endsInSeparator then ⟨base.pieces ++ path.pieces⟩
  else ⟨base.pieces ++ separator :: path.pieces⟩

/-- The absolute path through the given entries. -/
def through (segments : List Segment) : Path :=
  ⟨separator :: List.intercalate [separator] (segments.map Segment.pieces)⟩

/-- The part of a name before its last dot. A name without a dot, or with none but a leading one,
is all stem. -/
def stem (name : List Piece) : List Piece :=
  match (name.reverse.dropWhile (· != .char '.')).tail.reverse with
  | [] => name
  | before => before

end Path

end MachineCompiler
