import MachineCompiler.Proofs.Compile.Triple

/-!
# Dealings with the engine

What a compile asks of its engine follows a few patterns: it supplies support modules, it installs a
program for a while or until the next compile, it removes what it has installed, and it queries,
applies and renders. A fact that each of these keeps is kept by every phase, wherever the phase
fails, and so by a whole compile.
-/

namespace MachineCompiler

open Engine (Program)

variable {σ π α β ι : Type}

/-- What is taken out of a result has no source text. -/
theorem Engine.ApplyResult.source_extract {result : ApplyResult} {module start : String}
    {name : ProgramName} {program : Program}
    (h : result.extract? module name start = some program) : program.source = none := by
  obtain ⟨model, -, rfl⟩ := Option.map_eq_some_iff.1 h
  rfl

namespace Action

variable {setup : Setup σ π} {P : ι → Compile σ π → Prop} {Free : ι → ProgramName → Prop}
  {Q R : Compile σ π → Prop}

/-- What holds for good may be used where an action starts. -/
theorem Triple.given {fact : Prop} {P : Compile σ π → Prop} {action : Action σ π α}
    {Q : α → Compile σ π → Prop} {E : Failure → Compile σ π → Prop}
    (h : fact → Triple setup P action Q E) :
    Triple setup (fun compile => P compile ∧ fact) action Q E :=
  fun compile hcompile => h hcompile.2 compile hcompile.1

/-- What follows a value may rely on what is known of it. -/
theorem Keeps.bind_given {fact : α → Prop} {action : Action σ π α} {next : α → Action σ π β}
    (h : Triple setup Q action (fun value compile => Q compile ∧ fact value) fun _ => Q)
    (hnext : ∀ value, fact value → Keeps setup Q (next value)) :
    Keeps setup Q (action >>= next) :=
  (h.bind fun value => .given fun hfact => (hnext value hfact).triple).keeps

/-- An output of a transform is a program without source text. -/
theorem Triple.extract_with {start module : String} {result : Engine.ApplyResult} :
    Triple setup Q (extractWith start result module)
      (fun program compile => Q compile ∧ program.source = none) fun _ => Q := by
  have hname {file : String} : Keeps setup Q (outputProgram file) := by
    have hnothing : Leaves setup id (outputProgram file : Action σ π ProgramName) :=
      .output_program
    exact hnothing.keeps fun first second hsame hfirst => by
      obtain rfl : first = second := hsame
      exact hfirst
  refine hname.triple.bind fun name => ?_
  split
  · rename_i hprogram
    exact .pure fun _ hcompile => ⟨hcompile, Engine.ApplyResult.source_extract hprogram⟩
  · exact .fail fun _ => id

/-- What is kept besides may be added to a triple. -/
theorem Triple.and_keeps {Q' : α → Compile σ π → Prop} {E : Failure → Compile σ π → Prop}
    {action : Action σ π α} (h : Triple setup Q action Q' E) (hkeeps : Keeps setup R action) :
    Triple setup (fun compile => Q compile ∧ R compile) action
      (fun value compile => Q' value compile ∧ R compile) fun failure compile =>
        E failure compile ∧ R compile := by
  rintro compile ⟨hQ, hR⟩
  have hafter := h compile hQ
  have hkept := hkeeps compile hR
  rcases hrun : action.run setup compile with ⟨_ | _, _⟩ <;> rw [hrun] at hafter hkept <;>
    exact ⟨hafter, hkept⟩

theorem Keeps.and {action : Action σ π α} (h : Keeps setup Q action) (h' : Keeps setup R action) :
    Keeps setup (fun compile => Q compile ∧ R compile) action :=
  fun compile hboth => ⟨h compile hboth.1, h' compile hboth.2⟩

/-- What the engine keeps when it installs a program is kept by an install, carried out or not. -/
theorem Keeps.install {program : Program}
    (h : ∀ compile, Q compile →
      Q { compile with world := { compile.world with
        engine := (setup.engine.install program compile.world.engine).2 } }) :
    Keeps setup Q (install program) :=
  .read_bind (.bind (.ask h) fun _ => .ite .fail .pure)

/-- What every fact of a family keeps, some fact of the family keeps. -/
theorem Keeps.of_exists {action : Action σ π α} (h : ∀ index, Keeps setup (P index) action) :
    Keeps setup (fun compile => ∃ index, P index compile) action :=
  fun compile ⟨index, hcompile⟩ => ⟨index, h index compile hcompile⟩

/-- From every state with `Q`, the action ends in a state with `R`, whether it fails or not. -/
def Brings (setup : Setup σ π) (Q R : Compile σ π → Prop) (action : Action σ π α) : Prop :=
  ∀ compile, Q compile → R (action.run setup compile).2

theorem Keeps.brings {action : Action σ π α} (h : Keeps setup R action)
    (hQ : ∀ compile, Q compile → R compile) : Brings setup Q R action :=
  fun compile hcompile => h compile (hQ compile hcompile)

/-- What is kept for a while holds where the rest of the actions begins. -/
theorem Brings.bind {first : Action σ π α} {next : α → Action σ π β} (hfirst : Keeps setup Q first)
    (hQ : ∀ compile, Q compile → R compile) (hnext : ∀ value, Brings setup Q R (next value)) :
    Brings setup Q R (first >>= next) := by
  intro compile hcompile
  have hmiddle := hfirst compile hcompile
  rw [run_bind]
  rcases hrun : first.run setup compile with ⟨_ | value, middle⟩ <;> rw [hrun] at hmiddle
  · exact hQ middle hmiddle
  · exact hnext value middle hmiddle

/-- Each way of dealing with the engine keeps `P index`, and so does everything that leaves the
engine and the records about it alone. A program that was installed has a name that is `Free`, and
programs of such names can be removed. -/
structure Upkeep (setup : Setup σ π) (P : ι → Compile σ π → Prop)
    (Free : ι → ProgramName → Prop) : Prop where
  quiet {α : Type} {action : Action σ π α} (h : Quiet setup action) (index : ι) :
    Keeps setup (P index) action
  query (name : ProgramName) (module : String) (goals : List String) (index : ι) :
    Keeps setup (P index) (ask .query (setup.engine.query name module goals))
  apply (step : Engine.Step) (index : ι) :
    Keeps setup (P index) (ask .apply (setup.engine.apply step))
  render (name : ProgramName) (module : String) (index : ι) :
    Keeps setup (P index) (ask .render (setup.engine.render name module))
  install {program : Program} (hblank : program.source = none) (index : ι) :
    Triple setup (P index) (installTemporary program)
      (fun _ compile => P index compile ∧ Free index program.name) fun _ => P index
  uninstall {name : ProgramName} {index : ι} (hfree : Free index name) :
    Keeps setup (P index) (uninstall [name])

namespace Upkeep

variable {program : Program} {index : ι}

theorem install_temporary (h : Upkeep setup P Free) (hblank : program.source = none) (index : ι) :
    Keeps setup (P index) (installTemporary program) :=
  ((h.install hblank index).mono (fun _ => id) (fun _ _ => And.left) fun _ _ => id).keeps

theorem install_product (h : Upkeep setup P Free) (hblank : program.source = none) (index : ι) :
    Keeps setup (P index) (installProduct program) :=
  have hkept : (program.withSetting Engine.keepLineNumbers "TRUE").source = none := hblank
  h.install_temporary hkept index

theorem apply_step (h : Upkeep setup P Free) (step : Engine.Step) (index : ι) :
    Keeps setup (P index) (Action.apply step) :=
  .read_bind (.bind (h.apply step index) fun _ =>
    h.quiet (.bind .add_flags fun _ => .pure) index)

/-- A program that is installed for a while is removed again, or stays tracked. -/
theorem bracket (h : Upkeep setup P Free) (hblank : program.source = none)
    {body : Action σ π α} {next : Except Failure α → Action σ π β}
    (hbody : Keeps setup (P index) body)
    (hnext : ∀ outcome, Keeps setup (P index) (next outcome)) :
    Keeps setup (P index) (do
      installTemporary program
      let outcome ← Rendering.attempt body
      Action.uninstall [program.name]
      next outcome) := by
  -- The index is fixed for the whole bracket, so that the name is still free when it is removed.
  refine ((h.install hblank index).bind fun _ => .given fun hfree => ?_).keeps
  exact (Keeps.bind hbody.attempt fun outcome =>
    .bind (h.uninstall hfree) fun _ => hnext outcome).triple

end Upkeep

end Action

/-! ## Rendering -/

namespace Rendering

open Action

variable {setup : Setup σ π} {P : ι → Compile σ π → Prop} {Free : ι → ProgramName → Prop}

theorem write_files_gentle (directory : Path) (appendix : String)
    (files : List Engine.VirtualFile) :
    Gentle setup (writeFiles directory appendix files : Action σ π Bool) := by
  induction files with
  | nil => exact .pure
  | cons file rest ih =>
    refine .bind (.bind .progress fun _ => .bind .in_world_save fun error => ?_) fun _ =>
      .bind ih fun _ => .pure
    cases error with
    | none => exact .bind (.modify_product fun _ => rfl) fun _ => .pure
    | some reason => exact .bind .add_flag fun _ => .pure

theorem write_files_quiet (directory : Path) (appendix : String)
    (files : List Engine.VirtualFile) :
    Quiet setup (writeFiles directory appendix files : Action σ π Bool) :=
  (write_files_gentle directory appendix files).quiet

theorem render_keeps (h : Upkeep setup P Free) {program : Program} (hblank : program.source = none)
    (renderer appendix : String) (index : ι) :
    Keeps setup (P index) (render program renderer appendix) := by
  refine .read_bind ?_
  split
  · exact .fail
  · have hchosen : (withRenderer program renderer).source = none := hblank
    refine h.bracket hchosen (h.render _ _ index) fun outcome => h.quiet ?_ index
    refine .bind .of_except fun rendered => .bind .add_flags fun _ => .ite ?_ .pure
    exact .bind .output_directory fun directory => write_files_quiet directory appendix _

end Rendering

/-! ## Phases -/

namespace Phase

open Action

section Silent

variable {setup : Setup σ π}

theorem run_parse_quiet : Quiet setup (runParse : Action σ π Unit) := by
  have failed (flags : List Flag) : Quiet setup (parseFailed flags : Action σ π Unit) :=
    .bind .add_flags fun _ => .fail
  refine .bind .read fun _ => .bind .get fun _ => ?_
  dsimp only
  split
  · exact failed _
  · refine .bind (.bind .read fun _ => .in_world fun _ => rfl) fun outcome => ?_
    split
    · exact failed _
    · exact .bind .add_flags fun _ => .bind .modify_product fun _ => .advance

theorem parsed_program_passive : Passive setup (parsedProgram : Action σ π Source.Program) := by
  refine .bind .product fun product => ?_
  split
  · exact .pure
  · exact .fail

theorem parsed_program_gentle : Gentle setup (parsedProgram : Action σ π Source.Program) :=
  parsed_program_passive.gentle

theorem parsed_program_quiet : Quiet setup (parsedProgram : Action σ π Source.Program) :=
  parsed_program_gentle.quiet

theorem record_errors_passive (outcome : Engine.QueryOutcome) (root : ProgramName)
    (patterns : List ErrorPattern) :
    Passive setup (recordErrors outcome root patterns : Action σ π Unit) :=
  fun seen => record_errors_keeps fun _ => Passive.add_flags seen

/-- What a check does once it was answered. -/
theorem weigh_passive (outcome : Engine.QueryOutcome) (root : ProgramName)
    (patterns : List ErrorPattern) :
    Passive setup (do
      Action.addFlags outcome.flags
      recordErrors outcome root patterns
      if setup.options.printTypes then
        let found ← proofsOf outcome typePattern
        Action.addFlags (typeFlags found)
      if outcome.conclusion ≠ .holds ∨ (← Action.product).diagnostics.hasErrors then
        Action.fail (.phase "check")
      Action.advance .checked : Action σ π Unit) := by
  refine .bind Passive.add_flags fun _ =>
    .bind (record_errors_passive outcome root patterns) fun _ => ?_
  have concluded : Passive setup (do
      if outcome.conclusion ≠ .holds ∨ (← Action.product).diagnostics.hasErrors then
        Action.fail (.phase "check")
      Action.advance .checked : Action σ π Unit) :=
    .bind .product fun _ => .ite (.bind .fail fun _ => Passive.advance) Passive.advance
  exact .ite (.bind .of_except fun found => .bind Passive.add_flags fun _ => concluded) concluded

/-- What is done with the model compiler once it was found. -/
def runModelCompiler (setup : Setup σ π) (source target : String) : Action σ π Unit := do
  let directory ← Action.outputDirectory
  Action.progress ("Compiling " ++ source ++ " to " ++ target ++ " ...")
  let report ← Action.inWorld
    (World.launch · setup.toolchain.modelCompiler
      (modelCompilerArguments directory source target))
  let report ← Action.ofExcept
    (fun reason => .compiler (.modelCompilerSpawn setup.toolchain.modelCompiler reason)) report
  if !report.succeeded then
    let root := (← Action.product).root
    Action.addFlag ((Flag.error (modelCompilerMessage report.output) .fatal).inProgram root)
    Action.fail (.phase "generate-verification")

theorem compile_model_passive (source target : String) :
    Passive setup (compileModel source target : Action σ π Unit) := by
  have found : Passive setup (runModelCompiler setup source target) := by
    refine .bind .output_directory fun directory => .bind Passive.progress fun _ => ?_
    refine .bind Passive.launch fun report => .bind .of_except fun report => .ite ?_ .pure
    exact .bind .product fun _ => .bind Passive.add_flag fun _ => .fail
  intro seen
  refine .read_bind (.bind .get fun compile => .ite ?_ (found seen))
  exact .bind .fail fun _ => found seen

theorem compile_model_gentle (source target : String) :
    Gentle setup (compileModel source target : Action σ π Unit) :=
  (compile_model_passive source target).gentle

theorem compile_model_quiet (source target : String) :
    Quiet setup (compileModel source target : Action σ π Unit) :=
  (compile_model_gentle source target).quiet

end Silent

variable {setup : Setup σ π} {P : ι → Compile σ π → Prop} {Free : ι → ProgramName → Prop}
  {Q : Compile σ π → Prop}

theorem run_check_with_keeps (h : Upkeep setup P Free) (patterns : List ErrorPattern) (index : ι) :
    Keeps setup (P index) (runCheckWith patterns) := by
  refine .read_bind (.bind (h.quiet .root index) fun root => ?_)
  refine .bind .product fun product => .bind (h.query _ _ _ index) fun outcome => ?_
  exact h.quiet (weigh_passive outcome root patterns).gentle.quiet index

theorem lower_link_keeps (h : Upkeep setup P Free) (descriptor : Engine.ModuleRef) (index : ι) :
    Keeps setup (P index) (lowerLink descriptor) := by
  refine .bind .product fun _ => .bind (h.quiet .support_reference index) fun transform => ?_
  refine .bind (h.apply_step _ index) fun result => ?_
  refine .bind_given .extract_with fun program hblank => ?_
  exact Rendering.render_keeps h hblank cRenderer "" index

theorem link_keeps (h : Upkeep setup P Free) {program : Program} (hblank : program.source = none)
    (index : ι) : Keeps setup (P index) (link program) :=
  have hkept : (program.withSetting Engine.keepLineNumbers "TRUE").source = none := hblank
  h.bracket hkept (lower_link_keeps h _ index) fun _ => .of_except

/-! Phases begin by supplying support modules. While they do so they keep `Q`, and from then on
some `P index`. -/

theorem run_install_brings (h : Upkeep setup P Free)
    (hQ : ∀ compile, Q compile → ∃ index, P index compile)
    (hsupply : ∀ modules, Keeps setup Q (ensureSupport modules)) :
    Brings setup Q (fun compile => ∃ index, P index compile) runInstall := by
  refine .bind .read hQ fun _ => .bind (hsupply _) hQ fun _ => Keeps.brings (.of_exists ?_) hQ
  intro index
  refine .bind (h.quiet .root index) fun root => ?_
  refine .bind (h.quiet .support_reference index) fun _ => ?_
  refine .bind (h.quiet parsed_program_quiet index) fun program => .bind .product fun _ => ?_
  have installed (root : ProgramName) (rootModule : String) (domain : Engine.ModuleRef) :
      Keeps setup (P index) (do
        installProduct (rootProgram root rootModule domain program); advance .modelInstalled) :=
    .bind (h.install_product rfl index) fun _ => h.quiet .advance index
  refine .ite (.bind (h.quiet .output_directory index) fun directory => ?_) (installed _ _ _)
  exact .bind (h.quiet .save index) fun _ => installed _ _ _

theorem run_generate_c_brings (h : Upkeep setup P Free)
    (hQ : ∀ compile, Q compile → ∃ index, P index compile)
    (hsupply : ∀ modules, Keeps setup Q (ensureSupport modules)) :
    Brings setup Q (fun compile => ∃ index, P index compile) runGenerateC := by
  refine .bind .read hQ fun _ => .bind (hsupply _) hQ fun _ => Keeps.brings (.of_exists ?_) hQ
  intro index
  refine .bind .product fun _ => .bind (h.quiet .support_reference index) fun transform => ?_
  refine .bind (h.quiet .root_reference index) fun root => ?_
  refine .bind (h.quiet .output_base index) fun base => ?_
  refine .bind (h.apply_step _ index) fun result => .bind_given .extract_with fun cProgram hc => ?_
  refine .bind (Rendering.render_keeps h hc _ _ index) fun rendered => ?_
  refine .bind_given .extract_with fun linkProgram hlink => ?_
  refine .bind (h.quiet .output_directory index) fun directory => ?_
  refine .bind (h.quiet .save index) fun _ => .bind (link_keeps h hlink index) fun linked => ?_
  exact h.quiet (.ite (.bind .fail fun _ => .advance) .advance) index

theorem install_typed_model_brings (h : Upkeep setup P Free)
    (hQ : ∀ compile, Q compile → ∃ index, P index compile)
    (hsupply : ∀ modules, Keeps setup Q (ensureSupport modules)) :
    Brings setup Q (fun compile => ∃ index, P index compile) installTypedModel := by
  refine .bind (hsupply _) hQ fun _ => Keeps.brings (.of_exists fun index => ?_) hQ
  refine .bind .product fun _ => .bind (h.quiet .support_reference index) fun transform => ?_
  refine .bind (h.quiet .root_reference index) fun root => ?_
  refine .bind (h.apply_step _ index) fun result => ?_
  refine .bind_given .extract_with fun program htyped => ?_
  exact .bind (h.install_product htyped index) fun _ => .pure

theorem run_generate_verification_brings (h : Upkeep setup P Free)
    (hQ : ∀ compile, Q compile → ∃ index, P index compile)
    (hsupply : ∀ modules, Keeps setup Q (ensureSupport modules))
    (htyped : Keeps setup Q installTypedModel) :
    Brings setup Q (fun compile => ∃ index, P index compile) runGenerateVerification := by
  refine .bind .read hQ fun _ => .bind htyped hQ fun typed => .bind (hsupply _) hQ fun _ =>
    Keeps.brings (.of_exists fun index => ?_) hQ
  refine .bind (h.quiet .output_base index) fun base => .bind .product fun _ => ?_
  refine .bind (h.quiet .support_reference index) fun transform => ?_
  refine .bind (h.quiet .root_reference index) fun root => ?_
  refine .bind (h.apply_step _ index) fun result => ?_
  refine .bind_given .extract_with fun program hmodel => ?_
  refine .bind .get fun _ => .bind .of_except fun appendix => ?_
  refine .bind (Rendering.render_keeps h hmodel _ _ index) fun rendered => h.quiet ?_ index
  have compiled : Quiet setup (do
      compileModel (base ++ ".zing") (base ++ ".dll")
      Action.advance .verificationTargetGenerated : Action σ π Unit) :=
    .bind (compile_model_quiet _ _) fun _ => .advance
  exact .ite (.bind .fail fun _ => compiled) compiled

/-- A phase that begins with `Q` ends with some `P index`. -/
theorem built_in_brings (h : Upkeep setup P Free)
    (hQ : ∀ compile, Q compile → ∃ index, P index compile)
    (hsupply : ∀ modules, Keeps setup Q (ensureSupport modules))
    (htyped : Keeps setup Q installTypedModel) :
    ∀ phase ∈ (Pipeline.builtIn : List (Phase σ π)),
      Brings setup Q (fun compile => ∃ index, P index compile) phase.run := by
  simp only [Pipeline.builtIn, List.forall_mem_cons, List.not_mem_nil, false_imp_iff,
    implies_true, and_true]
  refine ⟨?_, run_install_brings h hQ hsupply, ?_, run_generate_c_brings h hQ hsupply,
    run_generate_verification_brings h hQ hsupply htyped⟩
  · exact Keeps.brings (.of_exists (h.quiet run_parse_quiet)) hQ
  · exact Keeps.brings (.of_exists (run_check_with_keeps h _)) hQ

/-- What supplying support modules and all other dealings keep, the phases keep. -/
theorem built_in_keeps (h : Upkeep setup P Free)
    (hsupply : ∀ modules,
      Keeps setup (fun compile => ∃ index, P index compile) (ensureSupport modules)) :
    ∀ phase ∈ (Pipeline.builtIn : List (Phase σ π)),
      Keeps setup (fun compile => ∃ index, P index compile) phase.run :=
  built_in_brings h (fun _ => id) hsupply (install_typed_model_brings h (fun _ => id) hsupply)

end Phase

/-! ## Pipelines -/

namespace Pipeline

open Action

variable {setup : Setup σ π} {P : Compile σ π → Prop}

/-- What the plugin does before a phase keeps `P`, and so does what it does after the phase. -/
def Accompanies (setup : Setup σ π) (P : Compile σ π → Prop) (plugin : Plugin σ π) : Prop :=
  ∀ phase, Triple setup P (plugin.before phase)
    (fun after compile => P compile ∧ Keeps setup P after) fun _ => P

/-- Reading the clock and telling about it is passive. -/
theorem timing_accompanies
    (h : ∀ {α : Type} {action : Action σ π α}, Passive setup action → Keeps setup P action) :
    Accompanies setup P (Plugin.timing : Plugin σ π) := by
  intro phase
  have clock : Passive setup (inWorld World.readClock : Action σ π Nat) := .in_world fun _ => rfl
  refine (h clock).triple.bind fun start => .pure fun compile hP => ⟨hP, ?_⟩
  exact h (.bind clock fun stop => Passive.progress)

/-- The plugins of a compile do nothing else. -/
theorem plugins_accompany
    (h : ∀ {α : Type} {action : Action σ π α}, Passive setup action → Keeps setup P action)
    (options : Options) : ∀ plugin ∈ (Compiler.pipeline options : Pipeline σ π).plugins,
      Accompanies setup P plugin := by
  unfold Compiler.pipeline
  split
  · exact List.forall_mem_singleton.2 (timing_accompanies h)
  · exact List.forall_mem_nil _

theorem act_before_keeps {plugins : List (Plugin σ π)} (phase : String)
    (h : ∀ plugin ∈ plugins, Accompanies setup P plugin) :
    Triple setup P (actBefore phase plugins)
      (fun after compile => P compile ∧ ∀ action ∈ after, Keeps setup P action) fun _ => P := by
  induction plugins with
  | nil => exact .pure fun compile hP => ⟨hP, by simp⟩
  | cons plugin rest ih =>
    refine (h plugin List.mem_cons_self phase).bind fun after => .given fun hafter => ?_
    refine (ih fun plugin hmem => h plugin (List.mem_cons_of_mem _ hmem)).bind fun others => ?_
    exact .pure fun compile ⟨hP, hothers⟩ => ⟨hP, List.forall_mem_cons.2 ⟨hafter, hothers⟩⟩

theorem act_after_keeps {after : List (Action σ π Unit)}
    (h : ∀ action ∈ after, Keeps setup P action) : Keeps setup P (actAfter after) := by
  induction after with
  | nil => exact .pure
  | cons action rest ih =>
    obtain ⟨haction, hrest⟩ := List.forall_mem_cons.1 h
    exact .bind haction fun _ => ih hrest

theorem run_phase_keeps {plugins : List (Plugin σ π)} {phase : Phase σ π}
    (hplugins : ∀ plugin ∈ plugins, Accompanies setup P plugin) (hphase : Keeps setup P phase.run) :
    Keeps setup P (runPhase plugins phase) := by
  refine ((act_before_keeps phase.name hplugins).bind fun after => .given fun hafter => ?_).keeps
  exact (Keeps.bind hphase fun _ => act_after_keeps hafter).triple

/-- What all phases keep, a run of them keeps, wherever it ends. -/
theorem run_phases_keeps {plugins : List (Plugin σ π)} {phases : List (Phase σ π)}
    (hplugins : ∀ plugin ∈ plugins, Accompanies setup P plugin)
    (hphases : ∀ phase ∈ phases, Keeps setup P phase.run) :
    Keeps setup P (runPhases plugins phases) := by
  induction phases with
  | nil => exact .pure
  | cons phase rest ih =>
    obtain ⟨hphase, hrest⟩ := List.forall_mem_cons.1 hphases
    refine .bind .read fun _ => .bind .get fun _ => .ite ?_ (ih hrest)
    exact .bind (run_phase_keeps hplugins hphase) fun _ => ih hrest

/-- What all built-in phases and all passive actions keep, a compile keeps. -/
theorem run_keeps
    (h : ∀ {α : Type} {action : Action σ π α}, Passive setup action → Keeps setup P action)
    (hphases : ∀ phase ∈ (builtIn : List (Phase σ π)), Keeps setup P phase.run)
    (options : Options) : Keeps setup P (Compiler.pipeline options : Pipeline σ π).run := by
  unfold run
  rw [Compiler.phases_pipeline, List.append_nil]
  exact .bind (run_phases_keeps (plugins_accompany h options) hphases) fun _ => h Passive.advance

end Pipeline

/-! ## Compiles -/

namespace Compiler

open Action

variable {setup : Setup σ π} {P : ι → Compile σ π → Prop} {Free : ι → ProgramName → Prop}

/-- What a reset, supplying support modules and all other dealings keep, a compile keeps, whether it
succeeds or not. -/
theorem run_phases_keeps (h : Upkeep setup P Free)
    (hreset : Keeps setup (fun compile => ∃ index, P index compile) reset)
    (hsupply : ∀ modules,
      Keeps setup (fun compile => ∃ index, P index compile) (ensureSupport modules))
    {compile : Compile σ π} (hcompile : ∃ index, P index compile) :
    ∃ index, P index (runPhases setup compile) := by
  have hquiet {α : Type} {action : Action σ π α} (hquiet : Quiet setup action) :
      Keeps setup (fun compile => ∃ index, P index compile) action :=
    .of_exists (h.quiet hquiet)
  have hpipeline := Pipeline.run_keeps (fun hpassive => hquiet hpassive.gentle.quiet)
    (Phase.built_in_keeps h hsupply) setup.options
  have hrun := hreset.bind (fun _ => hpipeline) compile hcompile
  have hconclude (failure : Failure) {compile : Compile σ π} (hcompile : ∃ index, P index compile) :
      ∃ index, P index (conclude failure compile) := by
    have hnoted : Quiet setup (modifyProduct fun _ => (conclude failure compile).product) :=
      .modify_product
    exact hquiet hnoted compile hcompile
  unfold runPhases
  split
  · rename_i hsucceeded
    rw [hsucceeded] at hrun
    exact hrun
  · rename_i hfailed
    rw [hfailed] at hrun
    exact hconclude _ hrun

end Compiler

end MachineCompiler
