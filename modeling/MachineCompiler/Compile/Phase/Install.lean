import MachineCompiler.Compile.Phase.Basic
import MachineCompiler.Source.Facts

/-!
# Installing the program

The program is written as a model over the source domain and installed in the engine. On demand the
model is also kept next to the generated files.
-/

namespace MachineCompiler.Phase

variable {σ π : Type}

/-- The program that is installed for a root file. -/
def rootProgram (root : ProgramName) (rootModule : String) (domain : Engine.ModuleRef)
    (program : Source.Program) : Engine.Program :=
  (Engine.Program.named root).withModel (program.toModel rootModule domain)

/-- The parsed program. -/
def parsedProgram : Action σ π Source.Program := do
  match (← Action.product).program with
  | some program => return program
  | none => Action.fail (.report ["no program to install; did the parse phase run?"])

/-- Install the model of the parsed program. -/
def runInstall : Action σ π Unit := do
  let setup ← read
  Action.ensureSupport [.sourceDomain]
  let root ← Action.root
  let domain ← Action.supportReference .sourceDomain
  let program ← parsedProgram
  let rootModule := (← Action.product).rootModule
  let program := rootProgram root rootModule domain program
  if setup.options.emitModel then
    let path := (← Action.outputDirectory).join (Path.ofString (rootModule ++ ".model"))
    Action.save path program.print
  Action.installProduct program
  Action.advance .modelInstalled

/-- The phase that installs the root model. -/
def install : Phase σ π where
  name := "install"
  description := "Serialize the program and install it in the engine"
  enabled _ _ := true
  run := runInstall

end MachineCompiler.Phase
