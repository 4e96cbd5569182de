import MachineCompiler.Engine.Result

/-!
# Engines

An engine holds installed programs, answers queries about their modules, transforms modules and
renders them. Whatever it is made of, it is a state and one operation on the state for each verb.
The compiler is written against this interface and nothing else.
-/

namespace MachineCompiler

open Engine

/-- The operations of an engine with states in `σ`. -/
structure ModelEngine (σ : Type) where
  install : Program → σ → Except Engine.Error InstallOutcome × σ
  uninstall : List ProgramName → σ → Except Engine.Error InstallOutcome × σ
  query : ProgramName → String → List String → σ → Except Engine.Error QueryOutcome × σ
  apply : Step → σ → Except Engine.Error ApplyResult × σ
  render : ProgramName → String → σ → Except Engine.Error RenderResult × σ

end MachineCompiler
