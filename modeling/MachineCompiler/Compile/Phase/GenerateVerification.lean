import MachineCompiler.Compile.Phase.Basic
import MachineCompiler.Compile.Rendering

/-!
# Generating the verification model

The root model is annotated with the types that the engine infers. Both are lowered to a
verification model, which is rendered with the run-time sources at its end and handed to the model
compiler.
-/

namespace MachineCompiler.Phase

open Engine (ModuleRef)

variable {σ π : Type}

/-- The renderer of verification models. -/
def verificationRenderer : String := "Zing"

/-- Install the root model with inferred types, under the aliases of the root model. It stays until
the next compile. -/
def installTypedModel : Action σ π ModuleRef := do
  Action.ensureSupport [.inferredTypesTransform]
  let output := (← Action.product).rootModule ++ "_WithTypes"
  let transform ← Action.supportReference .inferredTypesTransform
  let root ← Action.rootReference
  let result ← Action.apply ⟨transform, [.module root], [output]⟩
  let program ← Action.extractWith "" result output
  let reference := ModuleRef.within output program.name.shown
  Action.installProduct program
  return reference

/-- The texts of the run-time sources, one after the other. -/
def readRuntimeSupport (files : FileSystem) : List Path → Except CompilerError String
  | [] => .ok ""
  | path :: rest =>
    match files.readText path with
    | .error reason => .error (.runtimeSupport path reason)
    | .ok source => (readRuntimeSupport files rest).map (source ++ ·)

/-- What the model compiler is called with to turn one file of a directory into another. -/
def modelCompilerArguments (directory : Path) (source target : String) : List Path :=
  [Path.ofString "/nowarn:292",
    Path.ofString ("/out:" ++ (directory.join (Path.ofString target)).shown),
    directory.join (Path.ofString source)]

/-- The message for a model compiler that did not succeed: what it printed, if anything. -/
def modelCompilerMessage (output : String) : String :=
  let message := "The model compiler failed to compile the generated code"
  if (Text.trim output).isEmpty then message else message ++ "\n" ++ Text.trimEnd output

/-- Compile the verification file. -/
def compileModel (source target : String) : Action σ π Unit := do
  let setup ← read
  let compiler := setup.toolchain.modelCompiler
  if !(← get).world.files.isFile compiler then
    Action.fail (.compiler (.modelCompilerMissing compiler))
  let directory ← Action.outputDirectory
  Action.progress ("Compiling " ++ source ++ " to " ++ target ++ " ...")
  let report ← Action.inWorld
    (World.launch · compiler (modelCompilerArguments directory source target))
  let report ←
    Action.ofExcept (fun reason => .compiler (.modelCompilerSpawn compiler reason)) report
  if !report.succeeded then
    let root := (← Action.product).root
    Action.addFlag ((Flag.error (modelCompilerMessage report.output) .fatal).inProgram root)
    Action.fail (.phase "generate-verification")

/-- Generate the verification model and compile it. -/
def runGenerateVerification : Action σ π Unit := do
  let setup ← read
  let typed ← installTypedModel
  Action.ensureSupport [.verificationDomain, .verificationTransform]
  let base ← Action.outputBase
  let source := base ++ ".zing"
  let target := base ++ ".dll"
  let output := (← Action.product).rootModule ++ "_ZingModel"
  let transform ← Action.supportReference .verificationTransform
  let root ← Action.rootReference
  let result ← Action.apply
    ⟨transform, [.module root, .module typed, .constant (.text source)], [output]⟩
  let program ← Action.extract result output
  let files := (← get).world.files
  let appendix ←
    Action.ofExcept .compiler (readRuntimeSupport files setup.toolchain.runtimeSupport)
  if !(← Rendering.render program verificationRenderer appendix) then
    Action.fail (.phase "generate-verification")
  compileModel source target
  Action.advance .verificationTargetGenerated

/-- The phase that generates the verification model of a test, unless the compile stops after the
check. -/
def generateVerification : Phase σ π where
  name := "generate-verification"
  description := "Generate and compile the verification model"
  enabled setup _ := !setup.options.analyze && setup.options.test
  run := runGenerateVerification

end MachineCompiler.Phase
