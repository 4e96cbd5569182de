import MachineCompiler.Diagnostic.Flag

/-!
# Collections of flags

The flags recorded during one compile. They are kept in their own order and without repetitions,
so the collection depends only on which flags were recorded.
-/

namespace MachineCompiler

/-- Flags in ascending order. -/
structure Diagnostics where
  flags : List Flag

namespace Diagnostics

/-- No flags. -/
def empty : Diagnostics := ⟨[]⟩

/-- A flag put in its place among ordered flags, unless it is there already. -/
def place (flag : Flag) : List Flag → List Flag
  | [] => [flag]
  | head :: rest =>
    match flag.order head with
    | .lt => flag :: head :: rest
    | .eq => head :: rest
    | .gt => head :: place flag rest

/-- The collection holds a flag equal to `flag`. -/
def holds (diagnostics : Diagnostics) (flag : Flag) : Bool :=
  diagnostics.flags.any fun held => flag.order held == .eq

/-- The collection with one more flag. -/
def add (diagnostics : Diagnostics) (flag : Flag) : Diagnostics :=
  ⟨place flag diagnostics.flags⟩

/-- The collection with one more flag, and whether the flag is new to it. -/
def insert (diagnostics : Diagnostics) (flag : Flag) : Diagnostics × Bool :=
  (diagnostics.add flag, !diagnostics.holds flag)

/-- The collection with more flags. -/
def addAll (diagnostics : Diagnostics) (flags : List Flag) : Diagnostics :=
  flags.foldl add diagnostics

/-- The number of flags. -/
def size (diagnostics : Diagnostics) : Nat :=
  diagnostics.flags.length

/-- The flags of one severity, in order. -/
def ofSeverity (diagnostics : Diagnostics) (severity : Severity) : List Flag :=
  diagnostics.flags.filter (·.severity == severity)

/-- The number of errors. -/
def errorCount (diagnostics : Diagnostics) : Nat :=
  diagnostics.flags.countP Flag.isError

/-- Some flag is an error. -/
def hasErrors (diagnostics : Diagnostics) : Bool :=
  diagnostics.flags.any Flag.isError

end Diagnostics

end MachineCompiler
