import MachineCompiler.Compile.Action

/-!
# Phases

A compile runs in phases. A phase that cannot go on either records flags and fails as a phase, or
fails with anything else, which is then reported as a fatal flag.
-/

namespace MachineCompiler

/-- A phase of a compile. -/
structure Phase (σ π : Type) where
  name : String
  description : String
  /-- The phase belongs to this compile. -/
  enabled : Setup σ π → Compile σ π → Bool
  run : Action σ π Unit

end MachineCompiler
