import MachineCompiler.Proofs.Compile.Triple

/-!
# What a compile accounts for

The account of a compile is the state of its engine, the flags recorded, the stage it is at and the
messages written. Calm actions leave the account alone, and when they fail it is not because of the
order of stages. They are what phases consist of beside asking the engine, recording flags, telling
about progress and moving on.
-/

namespace MachineCompiler

variable {σ π α β : Type}

/-- The state of the engine, the flags, the stage and the messages of a compile. -/
def Compile.account (compile : Compile σ π) : σ × Diagnostics × Stage × Transcript :=
  (compile.world.engine, compile.product.diagnostics, compile.product.stage,
    compile.world.transcript)

/-- Any failure other than a refused move to another stage. -/
def Failure.Regular (failure : Failure) : Prop :=
  ∀ error, failure ≠ .stage error

/-- Writing a file writes no message. -/
theorem World.transcript_save (world : World σ π) {path : Path} {text : String} :
    (world.save path text).2.transcript = world.transcript := rfl

/-- Running a program writes no message. -/
theorem World.transcript_launch (world : World σ π) {path : Path} {arguments : List Path} :
    (world.launch path arguments).2.transcript = world.transcript := by
  unfold launch
  split <;> rfl

namespace Action

variable {setup : Setup σ π}

/-- The action leaves the account as it is, and fails only for regular reasons. -/
def Calm (setup : Setup σ π) (action : Action σ π α) : Prop :=
  ∀ account, Triple setup (fun compile => compile.account = account) action
    (fun _ compile => compile.account = account)
    (fun failure compile => compile.account = account ∧ failure.Regular)

namespace Calm

theorem pure {value : α} : Calm setup (pure value : Action σ π α) :=
  fun _ _ h => h

theorem fail {failure : Failure} (h : failure.Regular) :
    Calm setup (Action.fail failure : Action σ π α) :=
  fun _ _ hcompile => ⟨hcompile, h⟩

theorem read : Calm setup (read : Action σ π (Setup σ π)) :=
  fun _ _ h => h

theorem get : Calm setup (get : Action σ π (Compile σ π)) :=
  fun _ _ h => h

theorem product : Calm setup (Action.product : Action σ π Product) :=
  fun _ _ h => h

theorem of_except {ε : Type} {toFailure : ε → Failure} {result : Except ε α}
    (h : ∀ error, (toFailure error).Regular) :
    Calm setup (ofExcept toFailure result : Action σ π α) := by
  cases result with
  | error error => exact .fail (h error)
  | ok value => exact .pure

theorem bind {action : Action σ π α} {next : α → Action σ π β} (h : Calm setup action)
    (hnext : ∀ value, Calm setup (next value)) : Calm setup (action >>= next) :=
  fun account => (h account).bind fun value => hnext value account

/-- A change of a compile that leaves its account alone is calm. -/
theorem modify {change : Compile σ π → Compile σ π}
    (h : ∀ compile, (change compile).account = compile.account) :
    Calm setup (modify change : Action σ π Unit) :=
  fun _ compile hcompile => (h compile).trans hcompile

/-- A change of the world that leaves the engine and the messages alone is calm. -/
theorem in_world {change : World σ π → α × World σ π}
    (hengine : ∀ world, (change world).2.engine = world.engine)
    (htranscript : ∀ world, (change world).2.transcript = world.transcript) :
    Calm setup (inWorld change : Action σ π α) := by
  intro account compile hcompile
  simpa only [run_in_world, After, Compile.account, hengine, htranscript] using hcompile

theorem root : Calm setup (Action.root : Action σ π ProgramName) := by
  refine .bind .product fun product => ?_
  split
  · exact .pure
  · exact .fail (by simp [Failure.Regular])

theorem output_directory : Calm setup (outputDirectory : Action σ π Path) :=
  .bind .read fun _ => .bind .get fun _ => .pure

theorem output_base : Calm setup (outputBase : Action σ π String) :=
  .bind .read fun _ => .bind .root fun _ => .pure

theorem output_program {file : String} :
    Calm setup (outputProgram file : Action σ π ProgramName) :=
  .bind .output_directory fun _ => .of_except (by simp [Failure.Regular])

theorem support_reference {module : SupportModule} :
    Calm setup (supportReference module : Action σ π Engine.ModuleRef) :=
  .bind .read fun _ => .pure

theorem root_reference : Calm setup (rootReference : Action σ π Engine.ModuleRef) :=
  .bind .root fun _ => .bind .product fun _ => .pure

theorem save {path : Path} {text : String} :
    Calm setup (Action.save path text : Action σ π Unit) := by
  refine .bind (.in_world (fun world => world.engine_save) fun world => world.transcript_save)
    fun error => ?_
  split
  · exact .fail (by simp [Failure.Regular, Failure.unwritten])
  · exact .pure

theorem extract_with {start module : String} {result : Engine.ApplyResult} :
    Calm setup (extractWith start result module : Action σ π Engine.Program) := by
  refine .bind .output_program fun name => ?_
  split
  · exact .pure
  · exact .fail (by simp [Failure.Regular])

theorem track {program : ProgramName} : Calm setup (Action.track program : Action σ π Unit) :=
  .modify fun _ => rfl

theorem parsed_program : Calm setup (Phase.parsedProgram : Action σ π Source.Program) := by
  refine .bind .product fun product => ?_
  split
  · exact .pure
  · exact .fail (by simp [Failure.Regular])

theorem resolve_files {root : ProgramName} :
    Calm setup (Phase.resolveFiles root :
      Action σ π (Except (List Flag) Source.Resolution)) :=
  .bind .read fun _ => .in_world (fun _ => rfl) fun _ => rfl

end Calm

end Action

end MachineCompiler
