import MachineCompiler.Source.Program
import MachineCompiler.Source.Registry

/-!
# Parsers of source files

A parser adds the declarations of one file to those of the files before it, and reports which
files it includes. It may keep a state of its own from file to file.
-/

namespace MachineCompiler.Source

/-- What the files parsed so far declare: their top-level names and their declarations. -/
structure Declarations where
  names : Registry
  program : Program
deriving Inhabited

/-- Nothing declared. -/
def Declarations.empty : Declarations := ⟨.empty, .empty⟩

/-- What a parser reports for one file. The includes are paths as they are written in the file. -/
structure ParseOutput where
  succeeded : Bool
  flags : List Flag
  includes : List String

/-- A parser with states in `π`. -/
structure Parser (π : Type) where
  parseFile : ProgramName → String → Declarations → π → ParseOutput × Declarations × π

end MachineCompiler.Source
