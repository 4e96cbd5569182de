import MachineCompiler.Compile.Pipeline

/-!
# Compilers

A compiler runs one compile after the other against one engine. It begins each compile by removing
what the last one has left in the engine, the support modules excepted, so that the same input
leads to the same result again. At the end it writes the recorded flags in their order, and says so
if the compile failed.
-/

namespace MachineCompiler

variable {σ π : Type}

/-- The parts of a compiler that do not change. -/
structure Compiler (σ π : Type) where
  engine : ModelEngine σ
  parser : Source.Parser π
  toolchain : Toolchain

/-- What a compiler keeps from one compile to the next, and what the last compile has produced. -/
structure Session (σ π : Type) where
  world : World σ π
  cache : SupportCache
  installed : Installed
  program : Option Source.Program
  files : List ProgramName
  generated : List Path
  stage : Stage

namespace Session

/-- The session before its first compile. -/
def start (world : World σ π) : Session σ π :=
  ⟨world, .empty, .none, none, [], [], .idle⟩

/-- The state in which a compile begins. -/
def begin (session : Session σ π) : Compile σ π :=
  ⟨session.world, session.cache, session.installed, .none⟩

/-- The session after a compile. -/
def ofCompile (compile : Compile σ π) : Session σ π where
  world := compile.world
  cache := compile.cache
  installed := compile.installed
  program := compile.product.program
  files := compile.product.files
  generated := compile.product.generated
  stage := compile.product.stage

end Session

namespace Compiler

/-- What a compile of `input` is given. -/
def setup (compiler : Compiler σ π) (options : Options) (input : Path) : Setup σ π :=
  ⟨compiler.engine, compiler.parser, compiler.toolchain, options, input⟩

/-- Remove everything that the last compile has left in the engine. It stays tracked until the
engine confirms that it is gone. -/
def reset : Action σ π Unit := do
  Action.uninstall (← get).installed.programs

/-- The pipeline for some options. -/
def pipeline (options : Options) : Pipeline σ π :=
  if options.profile then Pipeline.standard.withPlugin Plugin.timing else Pipeline.standard

/-- A compile that has failed. A failure that no phase has reported becomes a flag. -/
def conclude (failure : Failure) (compile : Compile σ π) : Compile σ π :=
  let product := compile.product
  let diagnostics :=
    match failure with
    | .phase _ => product.diagnostics
    | _ => product.diagnostics.add (failure.toFlag product.root)
  { compile with product := { product with diagnostics, stage := .failed } }

/-- Run a compile up to its flags. -/
def runPhases (setup : Setup σ π) (compile : Compile σ π) : Compile σ π :=
  match (do reset; (pipeline setup.options).run : Action σ π Unit).run setup compile with
  | (.ok (), compile) => compile
  | (.error failure, compile) => conclude failure compile

/-- The messages at the end of a compile. -/
def closing (layout : FlagLayout) (product : Product) : Transcript :=
  product.diagnostics.flags.map (fun flag => ⟨flag.severity, layout.line flag⟩)
    ++ (if product.stage = .done then [] else [⟨.error, "Compilation failed"⟩])

/-- Compile `input`, and tell whether everything that the options ask for succeeded. -/
def compile (compiler : Compiler σ π) (options : Options) (input : Path)
    (session : Session σ π) : Bool × Session σ π :=
  let compiled := runPhases (compiler.setup options input) session.begin
  let messages := closing options.flagLayout compiled.product
  let world := { compiled.world with transcript := compiled.world.transcript ++ messages }
  (compiled.product.stage == .done, .ofCompile { compiled with world })

end Compiler

end MachineCompiler
