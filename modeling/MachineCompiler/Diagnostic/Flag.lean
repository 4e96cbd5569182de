import MachineCompiler.ProgramName

/-!
# Flags

A flag is one message about a program: how severe it is, where it points, what it says, and which
program it belongs to. Flags are compared by all of their fields, so that a collection of them can
drop repetitions and has one order of its own.
-/

namespace MachineCompiler

/-- How much a message matters, in ascending order. -/
inductive Severity where
  | info
  | warning
  | error
deriving DecidableEq, Repr, Inhabited

/-- All severities. -/
def Severity.all : List Severity := [.info, .warning, .error]

/-- The place of a severity in the order. -/
def Severity.rank : Severity → Nat
  | .info => 0
  | .warning => 1
  | .error => 2

/-- The word for a severity. -/
def Severity.word : Severity → String
  | .info => "info"
  | .warning => "warning"
  | .error => "error"

instance : Ord Severity where
  compare a b := compare a.rank b.rank

/-- A region of a source file, from a start to an end. Lines and columns count from one; the
region with zeros only, in no file, stands for no location. -/
structure Span where
  startLine : Nat
  startColumn : Nat
  endLine : Nat
  endColumn : Nat
  program : Option ProgramName
deriving BEq, DecidableEq

namespace Span

/-- No location. -/
def unknown : Span := ⟨0, 0, 0, 0, none⟩

instance : Inhabited Span := ⟨unknown⟩

/-- The region of a single position. -/
def point (program : Option ProgramName) (line column : Nat) : Span :=
  ⟨line, column, line, column, program⟩

/-- The region stands for no location. -/
def isUnknown (span : Span) : Bool :=
  span == unknown

end Span

/-- The numbers that classify flags. -/
structure FlagCode where
  value : Int
deriving DecidableEq, Repr

namespace FlagCode

/-- No classification. -/
def plain : FlagCode := ⟨0⟩

/-- An error that the check proved. -/
def typeError : FlagCode := ⟨1⟩

/-- A generated file that could not be written. -/
def saveFailed : FlagCode := ⟨1⟩

/-- A source path that could not be resolved or read. -/
def badFile : FlagCode := ⟨2⟩

/-- A failure of the engine or of an external tool. -/
def fatal : FlagCode := ⟨3⟩

end FlagCode

/-- A message about a program. -/
structure Flag where
  severity : Severity
  span : Span
  message : String
  code : FlagCode
  program : Option ProgramName
deriving BEq, DecidableEq

namespace Flag

/-- An error without a location. -/
def error (message : String) (code : FlagCode) : Flag :=
  ⟨.error, .unknown, message, code, none⟩

/-- The flag, as one of the given program. -/
def inProgram (program : Option ProgramName) (flag : Flag) : Flag :=
  { flag with program }

/-- The flag, pointing at the given region. -/
def located (span : Span) (flag : Flag) : Flag :=
  { flag with span }

/-- Programs in order, with no program first. -/
def compareProgram : Option ProgramName → Option ProgramName → Ordering
  | none, none => .eq
  | none, some _ => .lt
  | some _, none => .gt
  | some a, some b => compare a b

/-- The order of flags: by severity, owning program, start, message and code. The other fields of
the region come last and only break ties, so that the order agrees with equality. -/
def order (a b : Flag) : Ordering :=
  (compare a.severity b.severity)
    |>.then (compareProgram a.program b.program)
    |>.then (compare a.span.startLine b.span.startLine)
    |>.then (compare a.span.startColumn b.span.startColumn)
    |>.then (compare a.message b.message)
    |>.then (compare a.code.value b.code.value)
    |>.then (compare a.span.endLine b.span.endLine)
    |>.then (compare a.span.endColumn b.span.endColumn)
    |>.then (compareProgram a.span.program b.span.program)

instance : Ord Flag where
  compare := order

/-- A flag of error severity. -/
def isError (flag : Flag) : Bool :=
  flag.severity == .error

end Flag

end MachineCompiler
