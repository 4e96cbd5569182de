import MachineCompiler.Compile.Phase.Basic
import MachineCompiler.ModuleName
import MachineCompiler.Source.Implementation
import MachineCompiler.Source.Includes

/-!
# Parsing

The first phase finds the files of the program and parses them. Outside of tests the program is
then reduced to its implementation.
-/

namespace MachineCompiler.Phase

variable {σ π : Type}

/-- Find and parse the files that the root file includes. -/
def resolveFiles (root : ProgramName) : Action σ π (Except (List Flag) Source.Resolution) := do
  let setup ← read
  Action.inWorld fun world =>
    let (resolution, parser) := Source.resolve world.files setup.parser root world.parser
    (resolution, { world with parser })

/-- Report what keeps the files from being parsed. -/
def parseFailed (flags : List Flag) : Action σ π Unit := do
  Action.addFlags flags
  Action.fail (.phase "parse")

/-- The name of the root module for a root file. -/
def rootModuleOf (root : ProgramName) : String :=
  ModuleName.ofFileName SupportModule.reservedNames root.fileName

/-- Parse the input and every file that it includes. -/
def runParse : Action σ π Unit := do
  let setup ← read
  let current := (← get).world.currentDirectory
  match ProgramName.resolve current setup.input with
  | .error error => parseFailed [Source.badFile setup.input.shown error.message]
  | .ok root =>
    match ← resolveFiles root with
    | .error flags => parseFailed flags
    | .ok resolution =>
      Action.addFlags resolution.flags
      let program :=
        if setup.options.test then resolution.program else resolution.program.implementation
      Action.modifyProduct fun product =>
        { product with
          rootModule := rootModuleOf root
          root := some root
          files := resolution.files
          program := some program }
      Action.advance .parsed

/-- The phase that makes a program out of the input. -/
def parse : Phase σ π where
  name := "parse"
  description := "Parse the root file and every file it includes"
  enabled _ _ := true
  run := runParse

end MachineCompiler.Phase
