import MachineCompiler.Compile.Pipeline

/-!
# Probes

Phases and plugins that write down when they run and fail where they are told to, to see what a
pipeline does about it.
-/

namespace MachineCompiler.Probe

variable {σ π : Type}

/-- A phase that writes a message, records a flag, moves to another stage and then fails, each only
if it is told to. It belongs to compiles at the given stage, or to all of them. -/
def phase (name : String) (enabledIn : Option Stage) (flag : Option Flag) (next : Option Stage)
    (failure : Option Failure) : Phase σ π where
  name := name
  description := "Probe " ++ name
  enabled _ compile := enabledIn.all (· == compile.product.stage)
  run := do
    Action.progress (name ++ " ran in " ++ (← Action.product).stage.name)
    if let some flag := flag then Action.addFlag flag
    if let some next := next then Action.advance next
    if let some failure := failure then Action.fail failure

/-- A phase that writes that it ran. -/
def plain : Phase σ π where
  name := "plain"
  description := "Probe plain"
  enabled _ _ := true
  run := Action.progress "plain ran"

/-- Write a message, and fail with the reason given for the phase, if there is one. -/
def report (message : String) (failures : List (String × String)) (phase : String) :
    Action σ π Unit := do
  Action.progress message
  if let some reason := failures.lookup phase then Action.fail (.report [reason])

/-- A plugin that writes a message before and after every phase, and fails before or after the
phases that have a reason for it. -/
def plugin (name : String) (before after : List (String × String)) : Plugin σ π where
  name := name
  before phase := do
    report (name ++ " before " ++ phase) before phase
    return report (name ++ " after " ++ phase) after phase

end MachineCompiler.Probe
