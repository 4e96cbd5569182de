import MachineCompiler.Compile.Compiler
import MachineCompiler.Proofs.FileSystem.Growth

/-!
# Reasoning about actions

What an action makes of a state, as equations for `run`, and rules about what holds before and
after an action. `Triple` speaks about both ways in which an action may end, `Keeps` about what
holds throughout, and `Quiet` about actions that leave the engine and the records about it alone.
Every rule follows the shape of the action, so a fact about a phase is put together from facts
about the actions that it is made of.
-/

namespace MachineCompiler

variable {σ π α β : Type}

/-- The engine, the support programs read so far, and the record of what is installed. -/
def Compile.custody (compile : Compile σ π) : σ × SupportCache × Installed :=
  (compile.world.engine, compile.cache, compile.installed)

/-- What a compile is about: the engine and the records about it, the root file and its module, and
the current directory. -/
def Compile.bearing (compile : Compile σ π) :
    (σ × SupportCache × Installed) × Option ProgramName × String × List Path.Segment :=
  (compile.custody, compile.product.root, compile.product.rootModule,
    compile.world.files.currentDirectory)

/-- What a compile is about, with its source files and all files. -/
def Compile.substance (compile : Compile σ π) :
    (σ × SupportCache × Installed) × Option ProgramName × String × List ProgramName ×
      FileSystem :=
  (compile.custody, compile.product.root, compile.product.rootModule, compile.product.files,
    compile.world.files)

/-- Writing a file is no business of the engine. -/
theorem World.engine_save (world : World σ π) {path : Path} {text : String} :
    (world.save path text).2.engine = world.engine := rfl

/-- Running a program is no business of the engine. -/
theorem World.engine_launch (world : World σ π) {path : Path} {arguments : List Path} :
    (world.launch path arguments).2.engine = world.engine := by
  unfold launch
  split <;> rfl

/-- Running a program leaves the files alone. -/
theorem World.files_launch (world : World σ π) {path : Path} {arguments : List Path} :
    (world.launch path arguments).2.files = world.files := by
  unfold launch
  split <;> rfl

namespace Action

variable {setup : Setup σ π} {compile : Compile σ π}

/-! ## What actions make of a state -/

/-- A sequence of two actions stops at the first failure. -/
theorem run_bind (action : Action σ π α) (next : α → Action σ π β) :
    (action >>= next).run setup compile =
      match action.run setup compile with
      | (.ok value, compile) => (next value).run setup compile
      | (.error failure, compile) => (.error failure, compile) := by
  simp only [run, bind, ReaderT.bind, ExceptT.bind, ExceptT.mk, StateT.bind]
  rcases action setup compile with ⟨_ | _, _⟩ <;> rfl

/-- An attempt never fails: it yields the outcome. -/
theorem run_attempt (action : Action σ π α) :
    (Rendering.attempt action).run setup compile =
      (.ok (action.run setup compile).1, (action.run setup compile).2) := rfl

/-- What an action does to the world is all that it does. -/
theorem run_in_world (change : World σ π → α × World σ π) :
    (inWorld change : Action σ π α).run setup compile =
      (.ok (change compile.world).1, { compile with world := (change compile.world).2 }) := rfl

/-- Asking the engine changes the state of the engine only. -/
theorem run_ask (verb : Engine.Verb) (operation : σ → Except Engine.Error α × σ) :
    (ask verb operation : Action σ π α).run setup compile =
      ((operation compile.world.engine).1.mapError fun error => .compiler (.engine verb error),
        { compile with
          world := { compile.world with engine := (operation compile.world.engine).2 } }) := by
  unfold ask
  rw [run_bind, run_in_world]
  rcases operation compile.world.engine with ⟨_ | _, _⟩ <;> rfl

/-- The root file is asked of what the compile has produced. -/
theorem run_root :
    (root : Action σ π ProgramName).run setup compile =
      match compile.product.root with
      | some root => (.ok root, compile)
      | none => (.error (.report ["no root program; did the parse phase run?"]), compile) := by
  unfold root
  rw [run_bind]
  show Action.run _ setup compile = _
  cases compile.product.root <;> rfl

/-! ## Before and after -/

/-- How an action has ended: with a value and `Q`, or with a failure and `E`. -/
def After (Q : α → Compile σ π → Prop) (E : Failure → Compile σ π → Prop) :
    Except Failure α × Compile σ π → Prop
  | (.ok value, compile) => Q value compile
  | (.error failure, compile) => E failure compile

/-- From every state with `P`, the action ends with `Q` of its value or with `E` of its failure. -/
def Triple (setup : Setup σ π) (P : Compile σ π → Prop) (action : Action σ π α)
    (Q : α → Compile σ π → Prop) (E : Failure → Compile σ π → Prop) : Prop :=
  ∀ compile, P compile → After Q E (action.run setup compile)

/-- The action keeps `P`, whether it fails or not. -/
def Keeps (setup : Setup σ π) (P : Compile σ π → Prop) (action : Action σ π α) : Prop :=
  ∀ compile, P compile → P (action.run setup compile).2

variable {P P' : Compile σ π → Prop} {Q Q' : α → Compile σ π → Prop}
  {R : β → Compile σ π → Prop} {E E' : Failure → Compile σ π → Prop}

theorem After.mono {outcome : Except Failure α × Compile σ π} (h : After Q E outcome)
    (hQ : ∀ value compile, Q value compile → Q' value compile)
    (hE : ∀ failure compile, E failure compile → E' failure compile) : After Q' E' outcome := by
  rcases outcome with ⟨_ | _, _⟩
  · exact hE _ _ h
  · exact hQ _ _ h

namespace Triple

theorem pure {value : α} (h : ∀ compile, P compile → Q value compile) :
    Triple setup P (pure value) Q E :=
  h

theorem fail {failure : Failure} (h : ∀ compile, P compile → E failure compile) :
    Triple setup P (Action.fail failure) Q E :=
  h

/-- A sequence is handled one action after the other. -/
theorem bind {action : Action σ π α} {next : α → Action σ π β} (h : Triple setup P action Q E)
    (hnext : ∀ value, Triple setup (Q value) (next value) R E) :
    Triple setup P (action >>= next) R E := by
  intro compile hP
  have hfirst := h compile hP
  rw [run_bind]
  rcases hrun : action.run setup compile with ⟨_ | value, middle⟩ <;> rw [hrun] at hfirst
  · exact hfirst
  · exact hnext value middle hfirst

/-- Nothing follows a failure. -/
theorem fail_bind {failure : Failure} {next : α → Action σ π β}
    (h : ∀ compile, P compile → E failure compile) :
    Triple setup P (Action.fail failure >>= next) R E :=
  Triple.bind (Q := fun _ _ => False) (.fail h) fun _ _ => False.elim

/-- What is read is what the compile is given. -/
theorem read_bind {next : Setup σ π → Action σ π α} (h : Triple setup P (next setup) Q E) :
    Triple setup P (MonadReader.read >>= next) Q E :=
  h

/-- What follows can rely on the state that was got. -/
theorem get_bind {next : Compile σ π → Action σ π α}
    (h : ∀ compile, P compile → Triple setup (fun second => second = compile) (next compile) Q E) :
    Triple setup P (MonadState.get >>= next) Q E :=
  fun compile hP => h compile hP compile rfl

/-- What follows a result can rely on where its value comes from. -/
theorem of_except {ε : Type} {toFailure : ε → Failure} {result : Except ε α}
    (h : ∀ error compile, result = .error error → P compile → E (toFailure error) compile) :
    Triple setup P (ofExcept toFailure result)
      (fun value compile => P compile ∧ result = .ok value) E := by
  cases result with
  | error error => exact fun compile hP => h error compile rfl hP
  | ok value => exact fun compile hP => ⟨hP, rfl⟩

/-- What is known of the products so far is known of what is read of them. -/
theorem product (fact : Product → Prop) (h : ∀ compile, P compile → fact compile.product) :
    Triple setup P Action.product (fun value compile => P compile ∧ fact value) E :=
  fun compile hP => ⟨hP, h compile hP⟩

/-- The root file is the one that is known. -/
theorem root {name : ProgramName} (h : ∀ compile, P compile → compile.product.root = some name) :
    Triple setup P Action.root (fun value compile => P compile ∧ value = name) E := by
  intro compile hP
  rw [run_root, h compile hP]
  exact ⟨hP, rfl⟩

/-- A support module is referred to at its place. -/
theorem support_reference {module : SupportModule} :
    Triple setup P (Action.supportReference module)
      (fun value compile => P compile ∧
        value = module.reference setup.toolchain.supportDirectory) E :=
  fun _ hP => ⟨hP, rfl⟩

/-- The output directory is found from the current one. -/
theorem output_directory {current : Path}
    (h : ∀ compile, P compile → compile.world.currentDirectory = current) :
    Triple setup P Action.outputDirectory
      (fun value compile => P compile ∧ value = setup.options.outputDirectoryIn current) E :=
  fun compile hP => ⟨hP, congrArg setup.options.outputDirectoryIn (h compile hP)⟩

/-- An attempt yields what the action ends with. -/
theorem attempt {action : Action σ π α} (h : Triple setup P action Q E) :
    Triple setup P (Rendering.attempt action) (fun outcome compile => After Q E (outcome, compile))
      E' :=
  h

/-- What holds from every state of a family holds from their union. -/
theorem of_exists {ι : Sort _} {P : ι → Compile σ π → Prop} {action : Action σ π α}
    (h : ∀ index, Triple setup (P index) action Q E) :
    Triple setup (fun compile => ∃ index, P index compile) action Q E :=
  fun compile ⟨index, hcompile⟩ => h index compile hcompile

/-- What follows an attempt goes by how it has ended. -/
theorem attempt_bind {action : Action σ π α} {next : Except Failure α → Action σ π β}
    (h : Triple setup P action Q E)
    (hvalue : ∀ value, Triple setup (Q value) (next (.ok value)) R E')
    (hfailure : ∀ failure, Triple setup (E failure) (next (.error failure)) R E') :
    Triple setup P (Rendering.attempt action >>= next) R E' := by
  refine h.attempt.bind fun outcome => ?_
  cases outcome with
  | error failure => exact hfailure failure
  | ok value => exact hvalue value

theorem mono {action : Action σ π α} (h : Triple setup P action Q E)
    (hP : ∀ compile, P' compile → P compile)
    (hQ : ∀ value compile, Q value compile → Q' value compile)
    (hE : ∀ failure compile, E failure compile → E' failure compile) :
    Triple setup P' action Q' E' :=
  fun compile hcompile => (h compile (hP compile hcompile)).mono hQ hE

end Triple

/-- Keeping a fact is a triple with the same fact in all places. -/
theorem Keeps.triple {action : Action σ π α} (h : Keeps setup P action) :
    Triple setup P action (fun _ => P) (fun _ => P) := by
  intro compile hP
  have hafter := h compile hP
  rcases hrun : action.run setup compile with ⟨_ | _, _⟩ <;> rw [hrun] at hafter <;> exact hafter

/-- A triple with the same fact in all places is kept. -/
theorem Triple.keeps {action : Action σ π α}
    (h : Triple setup P action (fun _ => P) (fun _ => P)) : Keeps setup P action := by
  intro compile hP
  have hafter := h compile hP
  rcases hrun : action.run setup compile with ⟨_ | _, _⟩ <;> rw [hrun] at hafter <;> exact hafter

namespace Keeps

theorem pure {value : α} : Keeps setup P (pure value : Action σ π α) :=
  fun _ h => h

theorem fail {failure : Failure} : Keeps setup P (Action.fail failure : Action σ π α) :=
  fun _ h => h

theorem read : Keeps setup P (read : Action σ π (Setup σ π)) :=
  fun _ h => h

theorem get : Keeps setup P (get : Action σ π (Compile σ π)) :=
  fun _ h => h

theorem product : Keeps setup P (Action.product : Action σ π Product) :=
  fun _ h => h

theorem of_except {ε : Type} {toFailure : ε → Failure} {result : Except ε α} :
    Keeps setup P (ofExcept toFailure result : Action σ π α) := by
  cases result <;> exact fun _ h => h

theorem bind {action : Action σ π α} {next : α → Action σ π β} (h : Keeps setup P action)
    (hnext : ∀ value, Keeps setup P (next value)) : Keeps setup P (action >>= next) :=
  (h.triple.bind fun value => (hnext value).triple).keeps

/-- What is read is what the compile is given. -/
theorem read_bind {next : Setup σ π → Action σ π α} (h : Keeps setup P (next setup)) :
    Keeps setup P (MonadReader.read >>= next) :=
  h

/-- What is known about the state is known about the state that was got. -/
theorem get_bind {next : Compile σ π → Action σ π α}
    (h : ∀ compile, P compile → Keeps setup P (next compile)) :
    Keeps setup P (MonadState.get >>= next) :=
  fun compile hP => h compile hP compile hP

/-- What follows a result can rely on where its value comes from. -/
theorem of_except_bind {ε : Type} {toFailure : ε → Failure} {result : Except ε α}
    {next : α → Action σ π β} (h : ∀ value, result = .ok value → Keeps setup P (next value)) :
    Keeps setup P (ofExcept toFailure result >>= next) := by
  cases result with
  | error error => exact fun _ hP => hP
  | ok value => exact h value rfl

theorem ite {condition : Prop} [Decidable condition] {first second : Action σ π α}
    (hfirst : Keeps setup P first) (hsecond : Keeps setup P second) :
    Keeps setup P (if condition then first else second) := by
  split <;> assumption

/-- An attempt does what the action does. -/
theorem attempt {action : Action σ π α} (h : Keeps setup P action) :
    Keeps setup P (Rendering.attempt action) :=
  h

/-- What holds of the world's engine and the rest is kept when the engine's answer keeps it. -/
theorem ask {verb : Engine.Verb} {operation : σ → Except Engine.Error α × σ}
    (h : ∀ compile, P compile →
      P { compile with
        world := { compile.world with engine := (operation compile.world.engine).2 } }) :
    Keeps setup P (Action.ask verb operation) := by
  intro compile hP
  rw [run_ask]
  exact h compile hP

end Keeps

/-! ## Actions that leave the engine alone -/

/-- The action leaves the engine and the records about it as they are. -/
def Quiet (setup : Setup σ π) (action : Action σ π α) : Prop :=
  ∀ custody, Keeps setup (fun compile => compile.custody = custody) action

/-- A fact about the engine and the records about it is kept by every quiet action. -/
theorem Quiet.keeps {action : Action σ π α} (h : Quiet setup action)
    (hlocal : ∀ first second : Compile σ π, first.custody = second.custody → P first → P second) :
    Keeps setup P action :=
  fun compile hP => hlocal compile _ (h compile.custody compile rfl).symm hP

namespace Quiet

theorem pure {value : α} : Quiet setup (pure value : Action σ π α) :=
  fun _ => .pure

theorem fail {failure : Failure} : Quiet setup (Action.fail failure : Action σ π α) :=
  fun _ => .fail

theorem read : Quiet setup (read : Action σ π (Setup σ π)) :=
  fun _ => .read

theorem get : Quiet setup (get : Action σ π (Compile σ π)) :=
  fun _ => .get

theorem product : Quiet setup (Action.product : Action σ π Product) :=
  fun _ => .product

theorem of_except {ε : Type} {toFailure : ε → Failure} {result : Except ε α} :
    Quiet setup (ofExcept toFailure result : Action σ π α) :=
  fun _ => .of_except

theorem bind {action : Action σ π α} {next : α → Action σ π β} (h : Quiet setup action)
    (hnext : ∀ value, Quiet setup (next value)) : Quiet setup (action >>= next) :=
  fun custody => .bind (h custody) fun value => hnext value custody

theorem ite {condition : Prop} [Decidable condition] {first second : Action σ π α}
    (hfirst : Quiet setup first) (hsecond : Quiet setup second) :
    Quiet setup (if condition then first else second) :=
  fun custody => .ite (hfirst custody) (hsecond custody)

/-- A change of what the compile has produced does not reach the engine. -/
theorem modify_product {change : Product → Product} :
    Quiet setup (modifyProduct change : Action σ π Unit) :=
  fun _ _ h => h

/-- A change of the world that leaves the engine in its state is quiet. -/
theorem in_world {change : World σ π → α × World σ π}
    (h : ∀ world, (change world).2.engine = world.engine) :
    Quiet setup (inWorld change : Action σ π α) := by
  intro custody compile hcompile
  simpa only [run_in_world, Compile.custody, h] using hcompile

end Quiet

/-! ## Actions that leave alone what a compile is about -/

/-- The action leaves alone what is seen of the compile. -/
def Leaves {τ : Type} (setup : Setup σ π) (view : Compile σ π → τ) (action : Action σ π α) :
    Prop :=
  ∀ seen, Keeps setup (fun compile => view compile = seen) action

namespace Leaves

variable {τ : Type} {view : Compile σ π → τ}

/-- What depends on the view only is kept. -/
theorem keeps {action : Action σ π α} (h : Leaves setup view action)
    (hlocal : ∀ first second : Compile σ π, view first = view second → P first → P second) :
    Keeps setup P action :=
  fun compile hP => hlocal compile _ (h (view compile) compile rfl).symm hP

/-- What is seen of the compile is part of what the action leaves alone. -/
theorem coarser {τ' : Type} {view' : Compile σ π → τ'} {action : Action σ π α}
    (h : Leaves setup view action)
    (hview : ∀ first second, view first = view second → view' first = view' second) :
    Leaves setup view' action :=
  fun _ => h.keeps fun first second hsame hseen => (hview first second hsame).symm.trans hseen

theorem pure {value : α} : Leaves setup view (pure value : Action σ π α) :=
  fun _ => .pure

theorem fail {failure : Failure} : Leaves setup view (Action.fail failure : Action σ π α) :=
  fun _ => .fail

theorem read : Leaves setup view (read : Action σ π (Setup σ π)) :=
  fun _ => .read

theorem get : Leaves setup view (get : Action σ π (Compile σ π)) :=
  fun _ => .get

theorem product : Leaves setup view (Action.product : Action σ π Product) :=
  fun _ => .product

theorem of_except {ε : Type} {toFailure : ε → Failure} {result : Except ε α} :
    Leaves setup view (ofExcept toFailure result : Action σ π α) :=
  fun _ => .of_except

theorem bind {action : Action σ π α} {next : α → Action σ π β} (h : Leaves setup view action)
    (hnext : ∀ value, Leaves setup view (next value)) : Leaves setup view (action >>= next) :=
  fun seen => .bind (h seen) fun value => hnext value seen

theorem ite {condition : Prop} [Decidable condition] {first second : Action σ π α}
    (hfirst : Leaves setup view first) (hsecond : Leaves setup view second) :
    Leaves setup view (if condition then first else second) :=
  fun seen => .ite (hfirst seen) (hsecond seen)

theorem modify_product {change : Product → Product}
    (h : ∀ compile, view { compile with product := change compile.product } = view compile) :
    Leaves setup view (modifyProduct change : Action σ π Unit) :=
  fun _ compile hcompile => (h compile).trans hcompile

theorem in_world {change : World σ π → α × World σ π}
    (h : ∀ compile, view { compile with world := (change compile.world).2 } = view compile) :
    Leaves setup view (inWorld change : Action σ π α) :=
  fun _ compile hcompile => (h compile).trans hcompile

theorem root : Leaves setup view (Action.root : Action σ π ProgramName) := by
  refine .bind .product fun product => ?_
  split
  · exact .pure
  · exact .fail

theorem output_directory : Leaves setup view (outputDirectory : Action σ π Path) :=
  .bind .read fun _ => .bind .get fun _ => .pure

theorem output_base : Leaves setup view (outputBase : Action σ π String) :=
  .bind .read fun _ => .bind .root fun _ => .pure

theorem output_program {file : String} :
    Leaves setup view (outputProgram file : Action σ π ProgramName) :=
  .bind .output_directory fun _ => .of_except

theorem support_reference {module : SupportModule} :
    Leaves setup view (supportReference module : Action σ π Engine.ModuleRef) :=
  .bind .read fun _ => .pure

theorem root_reference : Leaves setup view (rootReference : Action σ π Engine.ModuleRef) :=
  .bind .root fun _ => .bind .product fun _ => .pure

theorem extract_with {start module : String} {result : Engine.ApplyResult} :
    Leaves setup view (extractWith start result module : Action σ π Engine.Program) := by
  refine .bind .output_program fun name => ?_
  split
  · exact .pure
  · exact .fail

end Leaves

/-- The action leaves alone the engine, the records about it, the root file and its module, and the
current directory. -/
def Gentle (setup : Setup σ π) (action : Action σ π α) : Prop :=
  Leaves setup Compile.bearing action

/-- A gentle action is quiet. -/
theorem Gentle.quiet {action : Action σ π α} (h : Gentle setup action) : Quiet setup action :=
  fun _ => Leaves.keeps h fun _ _ hsame hcustody =>
    (congrArg Prod.fst hsame).symm.trans hcustody

/-- The action leaves alone what gentle actions leave alone, and all files. -/
def Passive (setup : Setup σ π) (action : Action σ π α) : Prop :=
  Leaves setup Compile.substance action

/-- A passive action is gentle. -/
theorem Passive.gentle {action : Action σ π α} (h : Passive setup action) : Gentle setup action :=
  Leaves.coarser h fun first second hsame => by
    simp only [Compile.substance, Prod.mk.injEq] at hsame
    obtain ⟨hcustody, hroot, hmodule, -, hfiles⟩ := hsame
    rw [Compile.bearing, Compile.bearing, hcustody, hroot, hmodule, hfiles]

namespace Passive

theorem add_flag {flag : Flag} : Passive setup (addFlag flag : Action σ π Unit) :=
  .modify_product fun _ => rfl

theorem add_flags {flags : List Flag} : Passive setup (addFlags flags : Action σ π Unit) :=
  .modify_product fun _ => rfl

theorem progress {text : String} : Passive setup (Action.progress text : Action σ π Unit) :=
  .in_world fun _ => rfl

theorem advance {next : Stage} : Passive setup (Action.advance next : Action σ π Unit) :=
  .bind .product fun _ => .bind .of_except fun _ => .modify_product fun _ => rfl

/-- Running a program writes down that it was run. -/
theorem launch {path : Path} {arguments : List Path} :
    Passive setup (inWorld (World.launch · path arguments) :
      Action σ π (Except FileError ToolReport)) := by
  refine .in_world fun compile => ?_
  simp only [Compile.substance, Compile.custody, World.engine_launch, World.files_launch]

end Passive

namespace Leaves

theorem add_flag {flag : Flag} : Gentle setup (addFlag flag : Action σ π Unit) :=
  Passive.add_flag.gentle

theorem add_flags {flags : List Flag} : Gentle setup (addFlags flags : Action σ π Unit) :=
  Passive.add_flags.gentle

theorem progress {text : String} : Gentle setup (Action.progress text : Action σ π Unit) :=
  Passive.progress.gentle

theorem advance {next : Stage} : Gentle setup (Action.advance next : Action σ π Unit) :=
  Passive.advance.gentle

theorem in_world_save {path : Path} {text : String} :
    Gentle setup (inWorld (World.save · path text) : Action σ π (Option FileError)) := by
  refine .in_world fun compile => ?_
  have hcurrent := (FileSystem.grows_save compile.world.files path text).current
  exact congrArg (fun current => (compile.custody, compile.product.root,
    compile.product.rootModule, current)) hcurrent

theorem save {path : Path} {text : String} :
    Gentle setup (Action.save path text : Action σ π Unit) := by
  refine .bind in_world_save fun error => ?_
  split
  · exact .fail
  · exact .pure

end Leaves

namespace Quiet

theorem add_flags {flags : List Flag} : Quiet setup (addFlags flags : Action σ π Unit) :=
  Gentle.quiet Leaves.add_flags

theorem advance {next : Stage} : Quiet setup (Action.advance next : Action σ π Unit) :=
  Gentle.quiet Leaves.advance

theorem root : Quiet setup (Action.root : Action σ π ProgramName) :=
  Leaves.root

theorem output_directory : Quiet setup (outputDirectory : Action σ π Path) :=
  Leaves.output_directory

theorem output_base : Quiet setup (outputBase : Action σ π String) :=
  Leaves.output_base

theorem support_reference {module : SupportModule} :
    Quiet setup (supportReference module : Action σ π Engine.ModuleRef) :=
  Leaves.support_reference

theorem root_reference : Quiet setup (rootReference : Action σ π Engine.ModuleRef) :=
  Leaves.root_reference

theorem save {path : Path} {text : String} :
    Quiet setup (Action.save path text : Action σ π Unit) :=
  Gentle.quiet Leaves.save

theorem extract_with {start module : String} {result : Engine.ApplyResult} :
    Quiet setup (extractWith start result module : Action σ π Engine.Program) :=
  Leaves.extract_with

end Quiet

end Action

/-- Recording the errors that were found keeps what the recording of flags keeps. -/
theorem Phase.record_errors_keeps {setup : Setup σ π} {P : Compile σ π → Prop}
    {outcome : Engine.QueryOutcome} {root : ProgramName} {patterns : List ErrorPattern}
    (h : ∀ flags, Action.Keeps setup P (Action.addFlags flags)) :
    Action.Keeps setup P (recordErrors outcome root patterns) := by
  induction patterns with
  | nil => exact .pure
  | cons pattern rest ih => exact .bind .of_except fun found => .bind (h _) fun _ => ih

/-- The pipelines of a compiler have the built-in phases only. -/
theorem Compiler.phases_pipeline (options : Options) :
    (pipeline options : Pipeline σ π).phases = [] := by
  unfold pipeline
  split <;> rfl

end MachineCompiler
