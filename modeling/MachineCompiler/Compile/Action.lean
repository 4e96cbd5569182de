import MachineCompiler.Compile.Failure
import MachineCompiler.Compile.Installed
import MachineCompiler.Compile.World
import MachineCompiler.Diagnostic.Collection
import MachineCompiler.Engine.Basic
import MachineCompiler.Options.Basic
import MachineCompiler.Source.Parser
import MachineCompiler.Toolchain.Basic

/-!
# Actions of a compile

A compile is given an engine, a parser, a toolchain, options and an input, and works on a state. An
action either yields a value or fails, and in both cases the state is what the action has made of
it: nothing is undone by a failure.
-/

namespace MachineCompiler

open Engine (ModuleRef Step ApplyResult InstallOutcome)

/-- What a compile is given. -/
structure Setup (σ π : Type) where
  engine : ModelEngine σ
  parser : Source.Parser π
  toolchain : Toolchain
  options : Options
  input : Path

/-- What one compile has produced so far. -/
structure Product where
  diagnostics : Diagnostics
  stage : Stage
  root : Option ProgramName
  rootModule : String
  program : Option Source.Program
  files : List ProgramName
  generated : List Path

/-- Nothing produced. -/
def Product.none : Product := ⟨.empty, .idle, .none, "", .none, [], []⟩

/-- The state of a compile: the world, what the compiler keeps from one compile to the next, and
what this compile has produced. -/
structure Compile (σ π : Type) where
  world : World σ π
  cache : SupportCache
  installed : Installed
  product : Product

/-- An action of a compile. -/
abbrev Action (σ π : Type) : Type → Type :=
  ReaderT (Setup σ π) (ExceptT Failure (StateM (Compile σ π)))

namespace Action

variable {σ π α : Type}

/-- Run an action. -/
def run (action : Action σ π α) (setup : Setup σ π) (compile : Compile σ π) :
    Except Failure α × Compile σ π :=
  action setup compile

/-- The action that fails. -/
def fail (failure : Failure) : Action σ π α :=
  throw failure

/-- The value of a result, or the failure that its error amounts to. -/
def ofExcept {ε : Type} (toFailure : ε → Failure) : Except ε α → Action σ π α
  | .ok value => pure value
  | .error error => fail (toFailure error)

/-- Change what this compile has produced. -/
def modifyProduct (change : Product → Product) : Action σ π Unit :=
  modify fun compile => { compile with product := change compile.product }

/-- Do something to the world. -/
def inWorld (change : World σ π → α × World σ π) : Action σ π α :=
  modifyGet fun compile =>
    let (value, world) := change compile.world
    (value, { compile with world })

/-- Ask the engine. An error of the engine is the failure of the operation. -/
def ask (verb : Engine.Verb) (operation : σ → Except Engine.Error α × σ) : Action σ π α := do
  let answer ← inWorld fun world =>
    let (answer, engine) := operation world.engine
    (answer, { world with engine })
  ofExcept (fun error => .compiler (.engine verb error)) answer

/-- What this compile has produced so far. -/
def product : Action σ π Product :=
  return (← get).product

/-- Record a flag. -/
def addFlag (flag : Flag) : Action σ π Unit :=
  modifyProduct fun product => { product with diagnostics := product.diagnostics.add flag }

/-- Record flags. -/
def addFlags (flags : List Flag) : Action σ π Unit :=
  modifyProduct fun product => { product with diagnostics := product.diagnostics.addAll flags }

/-- Write a message about the progress of the compile. -/
def progress (text : String) : Action σ π Unit :=
  inWorld fun world => ((), world.write .info text)

/-- Move to another stage. -/
def advance (next : Stage) : Action σ π Unit := do
  let stage ← ofExcept .stage ((← product).stage.advance next)
  modifyProduct fun product => { product with stage }

/-- The root file, which is known once the input was parsed. -/
def root : Action σ π ProgramName := do
  match (← product).root with
  | some root => return root
  | none => fail (.report ["no root program; did the parse phase run?"])

/-- The directory that generated files go to. -/
def outputDirectory : Action σ π Path := do
  let setup ← read
  return setup.options.outputDirectoryIn (← get).world.currentDirectory

/-- The base name of generated files. -/
def outputBase : Action σ π String := do
  let setup ← read
  return setup.options.outputBase (← root)

/-- The name of a program that is kept in the output directory. -/
def outputProgram (file : String) : Action σ π ProgramName := do
  ofExcept .badName (ProgramName.ofPath ((← outputDirectory).join (Path.ofString file)))

/-- A support module at its place. -/
def supportReference (module : SupportModule) : Action σ π ModuleRef := do
  let setup ← read
  return module.reference setup.toolchain.supportDirectory

/-- The root module in the root file. -/
def rootReference : Action σ π ModuleRef := do
  let root ← root
  return .within (← product).rootModule root.shown

/-- Write a file together with the missing directories above it. -/
def save (path : Path) (text : String) : Action σ π Unit := do
  match ← inWorld (World.save · path text) with
  | some reason => fail (.unwritten path reason)
  | none => return ()

/-- Why an install or uninstall was refused: the first message, if there is one. -/
def refusal (outcome : InstallOutcome) : String :=
  outcome.firstMessage?.getD "the engine gave no reason"

/-- Install a program. A refusal is a failure. -/
def install (program : Engine.Program) : Action σ π Unit := do
  let setup ← read
  let outcome ← ask .install (setup.engine.install program)
  if !outcome.succeeded then
    fail (.compiler (.install program.name (refusal outcome)))

/-- Install the support modules that are not installed yet. -/
def ensureSupport : List SupportModule → Action σ π Unit
  | [] => return ()
  | module :: rest => do
    let setup ← read
    let compile ← get
    if !compile.installed.hasSupport module then
      let (program, cache) ←
        ofExcept (fun reason => .compiler (.support module reason))
          (compile.cache.load compile.world.files module setup.toolchain.supportDirectory)
      modify fun compile => { compile with cache }
      install program
      modify fun compile => { compile with installed := compile.installed.markSupport module }
    ensureSupport rest

/-- Track a program from now on. -/
def track (program : ProgramName) : Action σ π Unit :=
  modify fun compile => { compile with installed := compile.installed.track program }

/-- Install a program that is to be removed before the compile ends. -/
def installTemporary (program : Engine.Program) : Action σ π Unit := do
  install program
  track program.name

/-- Install a program that stays until the next compile, with the lines of source files kept in
proofs. -/
def installProduct (program : Engine.Program) : Action σ π Unit :=
  installTemporary (program.withSetting Engine.keepLineNumbers "TRUE")

/-- Remove programs and track them no longer. They stay tracked when the engine refuses. -/
def uninstall : List ProgramName → Action σ π Unit
  | [] => return ()
  | first :: rest => do
    let setup ← read
    let outcome ← ask .uninstall (setup.engine.uninstall (first :: rest))
    if outcome.succeeded then
      modify fun compile =>
        { compile with installed := compile.installed.untrackAll (first :: rest) }
    else fail (.compiler (.uninstall first (refusal outcome)))

/-- Apply a transform and record its messages. -/
def apply (step : Step) : Action σ π ApplyResult := do
  let setup ← read
  let result ← ask .apply (setup.engine.apply step)
  addFlags result.flags
  return { result with flags := [] }

/-- An output of a transform as a program in the output directory, whose aliases begin with
`start`. -/
def extractWith (start : String) (result : ApplyResult) (module : String) :
    Action σ π Engine.Program := do
  let name ← outputProgram (module ++ ".model")
  match result.extract? module name start with
  | some program => return program
  | none => fail (.compiler (.missingOutput module))

/-- What the aliases of extracted outputs begin with. -/
def outputAliasStart : String := "p_compiler__"

/-- An output of a transform as a program in the output directory. -/
def extract (result : ApplyResult) (module : String) : Action σ π Engine.Program :=
  extractWith outputAliasStart result module

end Action

end MachineCompiler
