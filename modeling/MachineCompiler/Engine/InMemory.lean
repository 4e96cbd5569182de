import MachineCompiler.Engine.Basic
import MachineCompiler.Engine.Pattern

/-!
# An engine in memory

An engine that keeps the installed programs in a list. What it concludes about a model and what its
transforms make are given from outside; rendering a module yields the files that its facts
describe. It writes down every operation that it starts, and it can be told to refuse one.
-/

namespace MachineCompiler.Engine

/-- An operation that was started. -/
inductive Call where
  | install (program : ProgramName)
  | uninstall (programs : List ProgramName)
  | query (program : ProgramName) (module : String)
  | apply (transform : String)
  | render (program : ProgramName) (module : String)

/-- What there is to say about a model. -/
structure Verdict where
  conclusion : Conclusion
  proofs : List Proof
  flags : List Flag

/-- Nothing speaks against the model. -/
def Verdict.pass : Verdict := ⟨.holds, [], []⟩

/-- A function from models and constants to models. -/
abbrev Transform := List Model → List Term → List Model

/-- The transform that makes the models that it is given. -/
def Transform.same : Transform := fun models _ => models

/-- The transform that makes the same models of everything. -/
def Transform.always (models : List Model) : Transform := fun _ _ => models

/-- The transform that makes one model, with a fact for each constant. -/
def Transform.collect (name : String) (domain : ModuleRef) : Transform := fun _ constants =>
  [⟨name, domain, constants.map fun constant => ⟨none, constant⟩⟩]

/-- The rules of an engine: its check of models and its transforms by name. -/
structure Rules where
  check : Model → Verdict
  transforms : List (String × Transform)

/-- The rules without transforms that let every model pass. -/
def Rules.none : Rules := ⟨fun _ => Verdict.pass, []⟩

/-- The rules with a transform put under a name. -/
def Rules.withTransform (rules : Rules) (name : String) (transform : Transform) : Rules :=
  { rules with transforms := (name, transform) :: rules.transforms.filter (·.1 != name) }

/-- The state of an engine in memory: the installed programs in the order of their installation,
the operations started, and the operation that is refused, if any. -/
structure Memory where
  installed : List Program
  calls : List Call
  refused : Option Verb

namespace Memory

/-- Nothing installed, nothing started, nothing refused. -/
def empty : Memory := ⟨[], [], none⟩

/-- The memory after an operation was started. -/
def record (memory : Memory) (call : Call) : Memory :=
  { memory with calls := memory.calls ++ [call] }

/-- The installed program of a name. -/
def program? (memory : Memory) (name : ProgramName) : Option Program :=
  memory.installed.find? fun program => program.name == name

/-- A program of the name is installed. -/
def isInstalled (memory : Memory) (name : ProgramName) : Bool :=
  memory.installed.any fun program => program.name == name

/-- The model of an installed program. -/
def modelOf (memory : Memory) (name : ProgramName) (module : String) : Except Error Model :=
  match memory.program? name with
  | none => .error (.notInstalled name)
  | some program =>
    match program.model? module with
    | none => .error (.unknownModule name module)
    | some model => .ok model

/-- The first model of a name among the installed programs. -/
def findModel? (memory : Memory) (module : String) : Option Model :=
  memory.installed.findSome? fun program => program.model? module

/-- The models and the constants among the arguments of a step. -/
def readArguments (memory : Memory) : List Argument → Except Error (List Model × List Term)
  | [] => .ok ([], [])
  | .module reference :: rest =>
    match memory.findModel? reference.name with
    | none => .error (.failed ("module '" ++ reference.name ++ "' is not installed"))
    | some model => (memory.readArguments rest).map fun read => (model :: read.1, read.2)
  | .constant value :: rest =>
    (memory.readArguments rest).map fun read => (read.1, value :: read.2)

/-- The program that a step says its transform lives in, when that program is missing. A location
that names no program is not looked at. -/
def missingTransform? (memory : Memory) (step : Step) : Option ProgramName :=
  match step.transform.location with
  | none => none
  | some location =>
    match ProgramName.ofPath (Path.ofString location) with
    | .error _ => none
    | .ok name => if memory.isInstalled name then none else some name

/-- Apply a transform. Its models take the output names of the step, one after the other; models
without an output name are dropped. -/
def runStep (rules : Rules) (memory : Memory) (step : Step) : Except Error ApplyResult :=
  match memory.missingTransform? step with
  | some name => .error (.notInstalled name)
  | none =>
    match rules.transforms.lookup step.transform.name with
    | none => .error (.failed ("unknown transform '" ++ step.transform.name ++ "'"))
    | some transform =>
      match memory.readArguments step.arguments with
      | .error error => .error error
      | .ok (models, constants) =>
        let named := ((transform models constants).zip step.outputs).map fun (model, name) =>
          { model with name := name }
        .ok (named.foldl ApplyResult.withOutput ApplyResult.empty)

/-- The messages of the facts that say that a model cannot be rendered. -/
def renderErrors (model : Model) : List String :=
  (model.factsOf "RenderError").filterMap fun fact => fact.term.arguments.head?.bind Term.text?

/-- Render a module into the files that its facts describe. -/
def renderModule (memory : Memory) (name : ProgramName) (module : String) :
    Except Error RenderResult :=
  match (memory.program? name).bind (·.setting? activeRenderer) with
  | none =>
    .ok (.failure [.error ("no renderer configured for '" ++ name.shown ++ "'") .plain])
  | some _ =>
    match memory.modelOf name module with
    | .error error => .error error
    | .ok model =>
      let errors := renderErrors model
      if errors.isEmpty then
        .ok (.success (model.facts.filterMap fun fact => VirtualFile.ofTerm? fact.term))
      else
        .ok (.failure (errors.map fun message => (Flag.error message .plain).inProgram (some name)))

/-- Install a program, unless one of its name is there. -/
def installProgram (memory : Memory) (program : Program) : InstallOutcome × Memory :=
  if memory.isInstalled program.name then
    let message := "program '" ++ program.name.shown ++ "' is already installed"
    (.failure program.name.shown (.error message .plain), memory)
  else (.success, { memory with installed := memory.installed ++ [program] })

/-- Remove the programs of the given names, unless one of them is missing. -/
def uninstallPrograms (memory : Memory) (names : List ProgramName) : InstallOutcome × Memory :=
  match names.find? fun name => !memory.isInstalled name with
  | some missing =>
    let message := "program '" ++ missing.shown ++ "' is not installed"
    (.failure missing.shown (.error message .plain), memory)
  | none =>
    (.success, { memory with
      installed := memory.installed.filter fun program => !names.any (program.name == ·) })

/-- The answer about a model as a query outcome. -/
def answer (verdict : Verdict) : QueryOutcome :=
  ⟨verdict.flags, verdict.conclusion, enumerate verdict.proofs⟩

/-- Start an operation unless it is refused. -/
def start {α : Type} (verb : Verb) (call : Call) (operation : Memory → Except Error α × Memory)
    (memory : Memory) : Except Error α × Memory :=
  if memory.refused = some verb then (.error (.notStarted verb), memory)
  else operation (memory.record call)

end Memory

/-- The engine in memory that follows the given rules. -/
def inMemory (rules : Rules) : ModelEngine Memory where
  install program := Memory.start .install (.install program.name) fun memory =>
    let (outcome, memory) := memory.installProgram program
    (.ok outcome, memory)
  uninstall names := Memory.start .uninstall (.uninstall names) fun memory =>
    let (outcome, memory) := memory.uninstallPrograms names
    (.ok outcome, memory)
  query name module _ := Memory.start .query (.query name module) fun memory =>
    ((memory.modelOf name module).map fun model => Memory.answer (rules.check model), memory)
  apply step := Memory.start .apply (.apply step.transform.name) fun memory =>
    (memory.runStep rules step, memory)
  render name module := Memory.start .render (.render name module) fun memory =>
    (memory.renderModule name module, memory)

end MachineCompiler.Engine
