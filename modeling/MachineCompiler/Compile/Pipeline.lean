import MachineCompiler.Compile.Phase.Check
import MachineCompiler.Compile.Phase.GenerateC
import MachineCompiler.Compile.Phase.GenerateVerification
import MachineCompiler.Compile.Phase.Install
import MachineCompiler.Compile.Phase.Parse

/-!
# Pipelines

A pipeline runs the built-in phases and then any others that were added to it. Plugins are told
about every phase that runs, before and after it. The first failure ends the run.
-/

namespace MachineCompiler

variable {σ π : Type}

/-- Something that accompanies phases. It acts before a phase, and what it returns is done after
the phase. -/
structure Plugin (σ π : Type) where
  name : String
  before : (phase : String) → Action σ π (Action σ π Unit)

/-- Phases to run after the built-in ones, and the plugins that accompany all of them. -/
structure Pipeline (σ π : Type) where
  phases : List (Phase σ π)
  plugins : List (Plugin σ π)

namespace Pipeline

/-- The phases of every pipeline. -/
def builtIn : List (Phase σ π) :=
  [Phase.parse, Phase.install, Phase.check, Phase.generateC, Phase.generateVerification]

/-- The pipeline of the built-in phases. -/
def standard : Pipeline σ π := ⟨[], []⟩

/-- The pipeline with one more phase at its end. -/
def withPhase (pipeline : Pipeline σ π) (phase : Phase σ π) : Pipeline σ π :=
  { pipeline with phases := pipeline.phases ++ [phase] }

/-- The pipeline with one more plugin. -/
def withPlugin (pipeline : Pipeline σ π) (plugin : Plugin σ π) : Pipeline σ π :=
  { pipeline with plugins := pipeline.plugins ++ [plugin] }

/-- Let the plugins act before a phase. -/
def actBefore (phase : String) : List (Plugin σ π) → Action σ π (List (Action σ π Unit))
  | [] => return []
  | plugin :: rest => do
    let after ← plugin.before phase
    let others ← actBefore phase rest
    return after :: others

/-- Let the plugins act after a phase. -/
def actAfter : List (Action σ π Unit) → Action σ π Unit
  | [] => return ()
  | after :: rest => do
    after
    actAfter rest

/-- Run a phase in the company of plugins. -/
def runPhase (plugins : List (Plugin σ π)) (phase : Phase σ π) : Action σ π Unit := do
  let after ← actBefore phase.name plugins
  phase.run
  actAfter after

/-- Run the phases that belong to this compile, in order. -/
def runPhases (plugins : List (Plugin σ π)) : List (Phase σ π) → Action σ π Unit
  | [] => return ()
  | phase :: rest => do
    if phase.enabled (← read) (← get) then runPhase plugins phase
    runPhases plugins rest

/-- Run all phases and be done. -/
def run (pipeline : Pipeline σ π) : Action σ π Unit := do
  runPhases pipeline.plugins (builtIn ++ pipeline.phases)
  Action.advance .done

end Pipeline

namespace Plugin

/-- A duration in milliseconds as seconds with three decimals. -/
def seconds (milliseconds : Nat) : String :=
  let decimals := toString (milliseconds % 1000)
  toString (milliseconds / 1000) ++ "." ++ String.ofList (List.replicate (3 - decimals.length) '0')
    ++ decimals

/-- Reports how long each phase took. -/
def timing : Plugin σ π where
  name := "timing"
  before phase := do
    let start ← Action.inWorld World.readClock
    return do
      let stop ← Action.inWorld World.readClock
      Action.progress (phase ++ ": " ++ seconds (stop - start) ++ "s")

/-- A plugin that does nothing. -/
def silent : Plugin σ π where
  name := "silent"
  before _ := return (return ())

end Plugin

end MachineCompiler
