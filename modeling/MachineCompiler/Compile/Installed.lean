import MachineCompiler.Toolchain.Support

/-!
# Programs that a compiler has installed

A compiler keeps track of what it has put into its engine. Support modules stay there for good and
are only marked. Every other program is tracked from its installation until the engine confirms
that it is gone, so that the next compile can remove what is left over.
-/

namespace MachineCompiler

/-- The tracked programs in the order of their installation, and the marked support modules. -/
structure Installed where
  programs : List ProgramName
  support : List SupportModule

namespace Installed

/-- Nothing installed. -/
def none : Installed := ⟨[], []⟩

/-- The program is tracked. -/
def contains (installed : Installed) (program : ProgramName) : Bool :=
  installed.programs.any (· == program)

/-- Track a program. One that is tracked keeps its place and its spelling. -/
def track (installed : Installed) (program : ProgramName) : Installed :=
  if installed.contains program then installed
  else { installed with programs := installed.programs ++ [program] }

/-- Track a program no longer. -/
def untrack (installed : Installed) (program : ProgramName) : Installed :=
  { installed with programs := installed.programs.filter fun tracked => !(tracked == program) }

/-- Track some programs no longer. -/
def untrackAll (installed : Installed) (programs : List ProgramName) : Installed :=
  programs.foldl untrack installed

/-- The support module is installed. -/
def hasSupport (installed : Installed) (module : SupportModule) : Bool :=
  installed.support.contains module

/-- Mark a support module as installed. -/
def markSupport (installed : Installed) (module : SupportModule) : Installed :=
  if installed.hasSupport module then installed
  else { installed with support := installed.support ++ [module] }

end Installed

end MachineCompiler
