import MachineCompiler.Compile.Phase.Basic
import MachineCompiler.Compile.Rendering

/-!
# Generating C

The checked program is lowered to a C program and a link descriptor. The C program is rendered; the
descriptor is kept next to the generated files, lowered to C itself and rendered as well.
-/

namespace MachineCompiler.Phase

open Engine (ModuleRef Step)

variable {σ π : Type}

/-- The renderer of C programs. -/
def cRenderer : String := "C"

/-- Lower an installed link descriptor to C and render it. -/
def lowerLink (descriptor : ModuleRef) : Action σ π Bool := do
  let output := (← Action.product).rootModule ++ "_CLinkModel"
  let transform ← Action.supportReference .linkTransform
  let result ← Action.apply ⟨transform, [.module descriptor], [output]⟩
  let program ← Action.extract result output
  Rendering.render program cRenderer ""

/-- Install a link descriptor, lower it, and remove it again whatever came of it. -/
def link (program : Engine.Program) : Action σ π Bool := do
  let module := (program.models.head?.map Engine.Model.name).getD ""
  let program := program.withSetting Engine.keepLineNumbers "TRUE"
  Action.installTemporary program
  let linked ← Rendering.attempt (lowerLink (.within module program.name.shown))
  Action.uninstall [program.name]
  Action.ofExcept id linked

/-- Generate the C program and link it. -/
def runGenerateC : Action σ π Unit := do
  let setup ← read
  Action.ensureSupport [.targetDomain, .linkTransform, .targetTransform]
  let rootModule := (← Action.product).rootModule
  let cModule := rootModule ++ "_CModel"
  let linkModule := rootModule ++ "_LinkModel"
  let transform ← Action.supportReference .targetTransform
  let root ← Action.rootReference
  let base ← Action.outputBase
  let isTest := if setup.options.test then "TRUE" else "FALSE"
  let result ← Action.apply
    ⟨transform, [.module root, .constant (.text base), .constant (.symbol isTest)],
      [cModule, linkModule]⟩
  let cProgram ← Action.extract result cModule
  let rendered ← Rendering.render cProgram cRenderer ""
  let linkProgram ← Action.extract result linkModule
  let path := (← Action.outputDirectory).join (Path.ofString (linkModule ++ ".model"))
  Action.save path linkProgram.print
  let linked ← link linkProgram
  if !(rendered && linked) then Action.fail (.phase "generate-c")
  Action.advance .cTargetGenerated

/-- The phase that generates C, unless the compile stops after the check or does without C. -/
def generateC : Phase σ π where
  name := "generate-c"
  description := "Generate the C implementation and link it"
  enabled setup _ := !setup.options.analyze && !setup.options.noC
  run := runGenerateC

end MachineCompiler.Phase
