import MachineCompiler.Proofs.Compile.Triple
import MachineCompiler.Proofs.Source.Replay

/-!
# Evaluating a compile

What a run of phases comes to, as equations that go phase by phase, and what parsing comes to when
the program of the input is known.
-/

namespace MachineCompiler

variable {σ π : Type} {setup : Setup σ π} {compile : Compile σ π}

namespace Source

/-- A root file that includes nothing is the whole program. -/
theorem resolve_single {files : FileSystem} {parser : Parser π} {root : ProgramName} {state : π}
    {location : Location} {text : String} {output : ParseOutput} {declarations : Declarations}
    {state' : π} (hopen : files.openText root.path = .ok (location, text))
    (hparse : parser.parseFile root text .empty state = (output, declarations, state'))
    (hsucceeded : output.succeeded = true) (hincludes : output.includes = []) :
    resolve files parser root state =
      (.ok ⟨declarations.program, [root], output.flags⟩, state') := by
  rw [resolve, Frontier.start, collect_cons, hopen]
  simp only [List.contains_nil, Bool.false_eq_true, if_false, Collected.none, hparse, hsucceeded,
    if_true, hincludes, Frontier.meetAll, List.nil_append]
  rw [collect]

end Source

namespace Action

theorem run_read : (read : Action σ π (Setup σ π)).run setup compile = (.ok setup, compile) :=
  rfl

theorem run_get : (get : Action σ π (Compile σ π)).run setup compile = (.ok compile, compile) :=
  rfl

theorem run_modify_product (change : Product → Product) :
    (modifyProduct change).run setup compile =
      (.ok (), { compile with product := change compile.product }) :=
  rfl

theorem run_add_flags (flags : List Flag) :
    (addFlags flags).run setup compile =
      (.ok (), { compile with product := { compile.product with
        diagnostics := compile.product.diagnostics.addAll flags } }) :=
  rfl

theorem run_product :
    (product : Action σ π Product).run setup compile = (.ok compile.product, compile) :=
  rfl

theorem run_support_reference (module : SupportModule) :
    (supportReference module).run setup compile =
      (.ok (module.reference setup.toolchain.supportDirectory), compile) :=
  rfl

/-- A file that cannot be written is a failure, and whatever of it was written stays. -/
theorem run_save (path : Path) (text : String) :
    (save path text).run setup compile =
      (match (compile.world.files.save path text).1 with
        | some reason => .error (.unwritten path reason)
        | none => .ok (),
        { compile with world := { compile.world with
          files := (compile.world.files.save path text).2 } }) := by
  rw [save, run_bind, run_in_world, World.save]
  rcases compile.world.files.save path text with ⟨_ | _, _⟩ <;> rfl

/-- A move that the order of stages allows is made. -/
theorem run_advance {next : Stage} (h : compile.product.stage.leadsTo next = true) :
    (advance next).run setup compile =
      (.ok (), { compile with product := { compile.product with stage := next } }) := by
  have hstage : compile.product.stage.advance next = .ok next := by rw [Stage.advance, if_pos h]
  show Action.run (ofExcept .stage (compile.product.stage.advance next) >>= _) _ _ = _
  rw [hstage]
  rfl

end Action

namespace Rendering

/-- A renderer was chosen. -/
theorem setting_with_renderer (program : Engine.Program) (renderer : String) :
    ((withRenderer program renderer).setting? Engine.activeRenderer).isSome = true := by
  simp [withRenderer, Engine.Program.setting?, Engine.Program.withSetting]

end Rendering

namespace Pipeline

open Action

/-- A phase that belongs to the compile runs before the others, and any other is left out. -/
theorem run_run_phases_cons (plugins : List (Plugin σ π)) (phase : Phase σ π)
    (rest : List (Phase σ π)) :
    (runPhases plugins (phase :: rest)).run setup compile =
      if phase.enabled setup compile then
        (runPhase plugins phase >>= fun _ => runPhases plugins rest).run setup compile
      else (runPhases plugins rest).run setup compile := by
  show Action.run (if _ then _ else _) _ _ = _
  split <;> rfl

/-- A phase that is timed reads the clock before and after it. -/
theorem run_phase_timing (phase : Phase σ π) :
    runPhase [Plugin.timing] phase = (do
      let start ← inWorld World.readClock
      phase.run
      let stop ← inWorld World.readClock
      progress (phase.name ++ ": " ++ Plugin.seconds (stop - start) ++ "s")) := by
  simp only [runPhase, actBefore, actAfter, Plugin.timing, bind_assoc, pure_bind, bind_pure_unit]

/-- Without plugins a phase just runs. -/
theorem run_phase_silent (phase : Phase σ π) : runPhase [] phase = phase.run := by
  simp only [runPhase, actBefore, actAfter, pure_bind, bind_pure_unit]

variable {P Q R : Compile σ π → Prop}
  {E : Failure → Compile σ π → Prop}

/-- It does not matter what was said and what time it is. -/
def Timeless (P : Compile σ π → Prop) : Prop :=
  ∀ compile transcript clock, P compile →
    P { compile with world := { compile.world with transcript, clock } }

/-- A phase does what it does alone also when it is timed. -/
theorem run_phase_triple {options : Options} {phase : Phase σ π} (hP : Timeless P)
    (hQ : Timeless Q) (h : Triple setup P phase.run (fun _ => Q) E) :
    Triple setup P (runPhase (Compiler.pipeline options).plugins phase) (fun _ => Q) E := by
  unfold Compiler.pipeline
  split
  · show Triple setup P (runPhase [Plugin.timing] phase) _ _
    rw [run_phase_timing]
    refine Triple.bind (Q := fun _ => P) (fun compile hcompile => hP compile _ _ hcompile)
      fun start => h.bind fun _ => ?_
    refine Triple.bind (Q := fun _ => Q) (fun compile hcompile => hQ compile _ _ hcompile)
      fun stop => ?_
    exact fun compile hcompile => hQ compile _ _ hcompile
  · show Triple setup P (runPhase [] phase) _ _
    rw [run_phase_silent]
    exact h

variable {plugins : List (Plugin σ π)} {phase : Phase σ π} {rest : List (Phase σ π)}

/-- A phase that belongs to the compile runs before the others. -/
theorem run_phases_enabled (henabled : ∀ compile, phase.enabled setup compile = true)
    (hphase : Triple setup P (runPhase plugins phase) (fun _ => Q) E)
    (hrest : Triple setup Q (runPhases plugins rest) (fun _ => R) E) :
    Triple setup P (runPhases plugins (phase :: rest)) (fun _ => R) E := by
  intro compile hcompile
  rw [run_run_phases_cons, if_pos (henabled compile)]
  exact (hphase.bind fun _ => hrest) compile hcompile

/-- A phase that does not belong to the compile is left out. -/
theorem run_phases_disabled (hdisabled : ∀ compile, phase.enabled setup compile = false)
    (hrest : Triple setup P (runPhases plugins rest) (fun _ => R) E) :
    Triple setup P (runPhases plugins (phase :: rest)) (fun _ => R) E := by
  intro compile hcompile
  rw [run_run_phases_cons, hdisabled compile, if_neg Bool.false_ne_true]
  exact hrest compile hcompile

/-- A phase that belongs to some compiles only runs before the others, or is left out. -/
theorem run_phases_optional (enabled : Bool)
    (henabled : ∀ compile, phase.enabled setup compile = enabled)
    (hphase : enabled = true → Triple setup P (runPhase plugins phase) (fun _ => Q) E)
    (hskip : enabled = false → ∀ compile, P compile → Q compile)
    (hrest : Triple setup Q (runPhases plugins rest) (fun _ => R) E) :
    Triple setup P (runPhases plugins (phase :: rest)) (fun _ => R) E := by
  cases enabled with
  | true => exact run_phases_enabled henabled (hphase rfl) hrest
  | false =>
    exact run_phases_disabled henabled
      (hrest.mono (hskip rfl) (fun _ _ => id) fun _ _ => id)

end Pipeline

namespace Phase

open Action

/-- A compile after its program was parsed. -/
def parsedAs (setup : Setup σ π) (root : ProgramName) (resolution : Source.Resolution) (parser : π)
    (compile : Compile σ π) : Compile σ π where
  world := { compile.world with parser }
  cache := compile.cache
  installed := compile.installed
  product := {
    diagnostics := compile.product.diagnostics.addAll resolution.flags
    stage := .parsed
    root := some root
    rootModule := rootModuleOf root
    program := some
      (if setup.options.test then resolution.program else resolution.program.implementation)
    files := resolution.files
    generated := compile.product.generated }

theorem run_resolve_files (root : ProgramName) :
    (resolveFiles root).run setup compile =
      let found := Source.resolve compile.world.files setup.parser root compile.world.parser
      (.ok found.1, { compile with world := { compile.world with parser := found.2 } }) :=
  rfl

/-- Parsing succeeds when the input names a file and the program of the file is found. -/
theorem run_parse_of_resolved {root : ProgramName} {resolution : Source.Resolution} {parser : π}
    (hroot : ProgramName.resolve compile.world.currentDirectory setup.input = .ok root)
    (hresolve : Source.resolve compile.world.files setup.parser root compile.world.parser =
      (.ok resolution, parser)) (hstage : compile.product.stage = .idle) :
    runParse.run setup compile = (.ok (), parsedAs setup root resolution parser compile) := by
  have hfiles : (resolveFiles root).run setup compile =
      (.ok (.ok resolution), { compile with world := { compile.world with parser } }) := by
    rw [run_resolve_files, hresolve]
  have hstage' : compile.product.stage.leadsTo .parsed = true := by rw [hstage]; rfl
  simp only [runParse, run_bind, run_read, run_get, hroot, hfiles, run_add_flags,
    run_modify_product]
  exact run_advance hstage'

theorem run_parsed_program {program : Source.Program} (h : compile.product.program = some program) :
    parsedProgram.run setup compile = (.ok program, compile) := by
  simp only [parsedProgram, run_bind, run_product, h]
  rfl

end Phase

namespace Compiler

section

variable (compiler : Compiler σ π) (options : Options) (input : Path) (session : Session σ π)

theorem succeeded_compile : (compiler.compile options input session).1 =
    ((runPhases (compiler.setup options input) session.begin).product.stage == .done) :=
  rfl

theorem engine_compile : (compiler.compile options input session).2.world.engine =
    (runPhases (compiler.setup options input) session.begin).world.engine :=
  rfl

theorem files_compile : (compiler.compile options input session).2.world.files =
    (runPhases (compiler.setup options input) session.begin).world.files :=
  rfl

theorem sources_compile : (compiler.compile options input session).2.files =
    (runPhases (compiler.setup options input) session.begin).product.files :=
  rfl

theorem transcript_compile : (compiler.compile options input session).2.world.transcript =
    (runPhases (compiler.setup options input) session.begin).world.transcript ++
      closing options.flagLayout
        (runPhases (compiler.setup options input) session.begin).product :=
  rfl

end

end Compiler

end MachineCompiler
