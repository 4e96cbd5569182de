import MachineCompiler.Proofs.Compile.Evaluation
import MachineCompiler.Proofs.Compile.Exchanges
import MachineCompiler.Proofs.Compile.Reporting

/-!
# Before anything is generated

A compile prepares its program: it removes what is left over, parses, installs the model of the
program and checks it. Up to there the engine is asked for nothing but this, and no file is written
but the model of the program. The rest of the compile comes after a check that has passed: the
requirements of the root module hold, all kinds of errors could be looked for, and no error was
recorded.
-/

namespace MachineCompiler

open Action
open Engine (Exchange Request Answer Verb logged)

variable {σ π α : Type}

/-! ## Preparing a compile -/

namespace Pipeline

/-- The phases up to the check. -/
def preparing : List (Phase σ π) :=
  [Phase.parse, Phase.install, Phase.check]

/-- The phases after the check. -/
def generating : List (Phase σ π) :=
  [Phase.generateC, Phase.generateVerification]

/-- Phases are run one list after the other. -/
theorem run_run_phases_append {setup : Setup σ π} {compile : Compile σ π}
    (plugins : List (Plugin σ π)) (first second : List (Phase σ π)) :
    (runPhases plugins (first ++ second)).run setup compile =
      (runPhases plugins first >>= fun _ => runPhases plugins second).run setup compile := by
  induction first generalizing compile with
  | nil => rfl
  | cons phase rest ih =>
    rw [List.cons_append, run_run_phases_cons, run_bind (runPhases plugins (phase :: rest)),
      run_run_phases_cons]
    split
    · rw [run_bind, run_bind]
      rcases (runPhase plugins phase).run setup compile with ⟨_ | _, middle⟩
      · rfl
      · exact ih.trans (run_bind _ _)
    · exact ih.trans (run_bind _ _)

end Pipeline

/-- A compile up to the end of its check. -/
def Compiler.prepare (options : Options) : Action σ π Unit := do
  Compiler.reset
  Pipeline.runPhases (Compiler.pipeline options).plugins Pipeline.preparing

/-- A compile after its check. -/
def Compiler.generate (options : Options) : Action σ π Unit := do
  Pipeline.runPhases (Compiler.pipeline options).plugins Pipeline.generating
  advance .done

/-- A compile prepares its program and then generates. -/
theorem Compiler.run_prepare_generate (options : Options) {setup : Setup σ π}
    {compile : Compile σ π} :
    (do reset; (pipeline options).run : Action σ π Unit).run setup compile =
      (prepare options >>= fun _ => generate options).run setup compile := by
  have hphases : (Pipeline.builtIn : List (Phase σ π)) ++ (pipeline options).phases =
      Pipeline.preparing ++ Pipeline.generating := by
    rw [phases_pipeline, List.append_nil]
    rfl
  simp only [prepare, generate, Pipeline.run, hphases, bind_assoc]
  rw [run_bind, run_bind]
  rcases (reset : Action σ π Unit).run setup compile with ⟨_ | _, middle⟩
  · rfl
  · dsimp only
    rw [run_bind, Pipeline.run_run_phases_append, run_bind, run_bind]
    rcases (Pipeline.runPhases _ Pipeline.preparing).run setup middle with ⟨_ | _, _⟩
    · rfl
    · exact (run_bind _ _).symm

/-! ## What a compile asks for -/

/-- What a compile asks for to remove what is left over: nothing if there is nothing. -/
def Compile.resetting (compile : Compile σ π) : List Request :=
  if compile.installed.programs = [] then [] else [.uninstall compile.installed.programs]

/-- The input names a file, and every file of the program is found and parsed. -/
def Setup.Resolves (setup : Setup σ π) (first : Compile σ π) (root : ProgramName) : Prop :=
  ProgramName.resolve first.world.currentDirectory setup.input = .ok root ∧
    ∃ resolution,
      (Source.resolve first.world.files setup.parser root first.world.parser).1 = .ok resolution

/-- What a compile asks about the root module in the root file. -/
def Phase.rootQuery (root : ProgramName) : Request :=
  .query root (rootModuleOf root) [rootModuleOf root ++ ".requires"]

/-- The request belongs to the preparation of the compile that begins with `first`: to remove what
is left over, to supply the source domain, to install the root program, or to check it. -/
inductive Engine.Request.Prepares (setup : Setup σ π) (first : Compile σ π) : Request → Prop where
  | reset : Prepares setup first (.uninstall first.installed.programs)
  | supply {program : Engine.Program} {cache : SupportCache}
      (hload : first.cache.load first.world.files .sourceDomain setup.toolchain.supportDirectory =
        .ok (program, cache)) : Prepares setup first (.install program)
  | install {program : Engine.Program}
      (hroot : ProgramName.resolve first.world.currentDirectory setup.input = .ok program.name) :
      Prepares setup first (.install program)
  | check {root : ProgramName}
      (hroot : ProgramName.resolve first.world.currentDirectory setup.input = .ok root) :
      Prepares setup first (Phase.rootQuery root)

/-- The place of the model of a program that is kept next to the generated files. -/
def Setup.emitPath (setup : Setup σ π) (first : Compile σ π) (root : ProgramName) : Path :=
  (setup.options.outputDirectoryIn first.world.currentDirectory).join
    (Path.ofString (Phase.rootModuleOf root ++ ".model"))

/-- Nothing was written since `first` but the model of the root file, and that on demand. -/
def Setup.Emits (setup : Setup σ π) (first : Compile σ π) (root : ProgramName)
    (files : FileSystem) : Prop :=
  files = first.world.files ∨ setup.options.emitModel = true ∧
    ∃ text, files = (first.world.files.save (setup.emitPath first root) text).2

/-- Since `first` a compile has done no more than to remove what was left over. -/
structure Compile.Resets (compile first : Compile (σ × List (Exchange σ)) π) : Prop where
  asked : ∃ before, compile.world.engine.2 = first.world.engine.2 ++ before ∧
    before.map Exchange.request = first.resetting
  cache : compile.cache = first.cache
  files : compile.world.files = first.world.files
  launches : compile.world.launches = first.world.launches

/-- Since `first` a compile has only prepared the program of the root file. -/
structure Compile.Underway (setup : Setup (σ × List (Exchange σ)) π)
    (compile first : Compile (σ × List (Exchange σ)) π) (root : ProgramName) : Prop where
  asked : ∃ before, compile.world.engine.2 = first.world.engine.2 ++ before ∧
    ∀ exchange ∈ before, exchange.request.Prepares setup first
  files : setup.Emits first root compile.world.files
  launches : compile.world.launches = first.world.launches
  named : compile.product.root = some root
  rootModule : compile.product.rootModule = Phase.rootModuleOf root

/-- After a check the proofs of all patterns were found, the requirements of the root module hold
and no error was recorded. -/
structure Compile.Approved (setup : Setup (σ × List (Exchange σ)) π) (root : ProgramName)
    (before : List (Exchange σ))
    (compile : Compile (σ × List (Exchange σ)) π) : Prop where
  asked : ∃ earlier state outcome,
    before = earlier ++ [⟨state, Phase.rootQuery root, .queried outcome⟩] ∧
      outcome.conclusion = .holds ∧
      ∀ pattern ∈ Phase.asked setup.options, (outcome.enumerate pattern 1).isOk = true
  spotless : compile.product.diagnostics.hasErrors = false

/-- Since `first` a compile has prepared the program of the root file, and its check has passed. -/
def Compile.Prepared (setup : Setup (σ × List (Exchange σ)) π)
    (compile first : Compile (σ × List (Exchange σ)) π) (root : ProgramName) : Prop :=
  compile.Underway setup first root ∧
    ∃ before, compile.world.engine.2 = first.world.engine.2 ++ before ∧
      compile.Approved setup root before

variable {engine : ModelEngine σ} {setup : Setup (σ × List (Exchange σ)) π}
  {first compile : Compile (σ × List (Exchange σ)) π} {root : ProgramName}

namespace Compile

/-- What is asked for to remove what is left over belongs to the preparation. -/
theorem prepares_of_resetting {before : List (Exchange σ)}
    (h : before.map Exchange.request = first.resetting) :
    ∀ exchange ∈ before, exchange.request.Prepares setup first := by
  intro exchange hexchange
  have hmem := List.mem_map_of_mem (f := Exchange.request) hexchange
  rw [h, resetting] at hmem
  split at hmem
  · nomatch hmem
  · rw [List.mem_singleton.1 hmem]
    exact .reset

/-- One more request that belongs to the preparation. -/
theorem Underway.exchanged (h : compile.Underway setup first root) {request : Request}
    (hrequest : request.Prepares setup first) (answer : Answer) (next : σ) :
    (compile.exchanged request answer next).Underway setup first root := by
  obtain ⟨before, hlog, hbefore⟩ := h.asked
  refine { h with asked := ⟨before ++ [⟨compile.world.engine.1, request, answer⟩], ?_, ?_⟩ }
  · show compile.world.engine.2 ++ _ = _
    rw [hlog, List.append_assoc]
  · exact List.forall_mem_append.2 ⟨hbefore, List.forall_mem_singleton.2 hrequest⟩

end Compile

/-! ## Removing what is left over -/

/-- A reset asks for nothing but to remove what is tracked. -/
theorem Compiler.reset_resets (h : setup.engine = logged engine) :
    Triple setup (fun compile => compile = first) reset
      (fun _ compile => compile.Resets first ∧ compile.world.parser = first.world.parser ∧
        compile.product = first.product)
      (fun _ compile => compile.Resets first) := by
  rintro compile rfl
  show After _ _ ((uninstall compile.installed.programs).run setup compile)
  rcases hprograms : compile.installed.programs with _ | ⟨name, rest⟩
  · have hasked : compile.Resets compile :=
      ⟨⟨[], (List.append_nil _).symm, by simp [Compile.resetting, hprograms]⟩, rfl, rfl, rfl⟩
    exact ⟨hasked, rfl, rfl⟩
  · rw [run_uninstall]
    rcases hanswer : setup.engine.uninstall (name :: rest) compile.world.engine with ⟨result, next⟩
    have hasked : ∃ before, next.2 = compile.world.engine.2 ++ before ∧
        before.map Exchange.request = compile.resetting := by
      rw [h] at hanswer
      exact ⟨_, (congrArg (·.2.2) hanswer).symm, by simp [Compile.resetting, hprograms]⟩
    rcases result with _ | ⟨_ | _, _⟩
    · exact ⟨hasked, rfl, rfl, rfl⟩
    · exact ⟨hasked, rfl, rfl, rfl⟩
    · exact ⟨⟨hasked, rfl, rfl, rfl⟩, rfl, rfl⟩

namespace Phase

/-! ## Parsing -/

/-- Parsing asks the engine for nothing, and fails when the files cannot be resolved. -/
theorem run_parse_resolves :
    Triple setup
      (fun compile => compile.Resets first ∧ compile.world.parser = first.world.parser ∧
        compile.product.stage = .idle)
      runParse
      (fun _ compile => ∃ root, setup.Resolves first root ∧
        compile.Underway setup first root ∧ compile.world.files = first.world.files ∧
        compile.cache = first.cache)
      (fun _ compile => compile.Resets first) := by
  rintro compile ⟨h, hparser, hstage⟩
  have hcurrent : compile.world.currentDirectory = first.world.currentDirectory :=
    congrArg (fun files : FileSystem => Path.through files.currentDirectory) h.files
  cases hroot : ProgramName.resolve compile.world.currentDirectory setup.input with
  | error error =>
    simp only [runParse, run_bind, run_read, run_get, hroot]
    exact { h with }
  | ok root =>
    rcases hresolve : Source.resolve compile.world.files setup.parser root compile.world.parser
      with ⟨flags | resolution, parser⟩
    · simp only [runParse, run_bind, run_read, run_get, hroot, run_resolve_files, hresolve]
      exact { h with }
    · rw [run_parse_of_resolved hroot hresolve hstage]
      have hresolves : setup.Resolves first root := by
        rw [hcurrent] at hroot
        rw [h.files, hparser] at hresolve
        exact ⟨hroot, resolution, by rw [hresolve]⟩
      obtain ⟨before, hlog, hrequests⟩ := h.asked
      have hbefore : ∀ exchange ∈ before, exchange.request.Prepares setup first :=
        Compile.prepares_of_resetting hrequests
      refine ⟨root, hresolves, ?_, h.files, h.cache⟩
      exact ⟨⟨before, hlog, hbefore⟩, .inl h.files, h.launches, rfl, rfl⟩

/-! ## Installing -/

variable {files : FileSystem}

/-- An install that belongs to the preparation. -/
theorem install_underway (h : setup.engine = logged engine) {program : Engine.Program}
    (hrequest : (Request.install program).Prepares setup first) :
    Keeps setup
      (fun compile => compile.Underway setup first root ∧ compile.world.files = files)
      (Action.install program) := by
  refine .read_bind (.bind ?_ fun outcome => .ite .fail .pure)
  rw [h]
  exact .ask fun compile ⟨hunderway, hfiles⟩ => ⟨hunderway.exchanged hrequest _ _, hfiles⟩

/-- The source domain is supplied, if anything. -/
theorem supply_underway (h : setup.engine = logged engine) :
    Triple setup
      (fun compile => compile.Underway setup first root ∧
        compile.world.files = first.world.files ∧ compile.cache = first.cache)
      (ensureSupport [.sourceDomain])
      (fun _ compile => compile.Underway setup first root ∧
        compile.world.files = first.world.files)
      (fun _ compile => compile.Underway setup first root) := by
  refine .read_bind (.get_bind fun compile ⟨hunderway, hfiles, hcache⟩ => ?_)
  refine (Keeps.ite (P := fun compile => compile.Underway setup first root ∧
    compile.world.files = first.world.files) ?_ .pure).triple.mono ?_ (fun _ _ => id)
      fun _ _ => And.left
  · refine .of_except_bind fun (program, cache) hload => ?_
    rw [hfiles, hcache] at hload
    refine .bind (fun _ hkept => ⟨{ hkept.1 with }, hkept.2⟩) fun _ => ?_
    refine .bind (install_underway h (.supply hload)) fun _ => ?_
    exact .bind (fun _ hkept => ⟨{ hkept.1 with }, hkept.2⟩) fun _ => .pure
  · rintro _ rfl
    exact ⟨hunderway, hfiles⟩

/-- The model of the root file may be written on demand. -/
theorem save_underway (hemit : setup.options.emitModel = true) (text : String) :
    Triple setup
      (fun compile => compile.Underway setup first root ∧
        compile.world.files = first.world.files)
      (Action.save (setup.emitPath first root) text)
      (fun _ compile => compile.Underway setup first root)
      (fun _ compile => compile.Underway setup first root) := by
  intro compile hkept
  have hwritten : setup.Emits first root
      (compile.world.files.save (setup.emitPath first root) text).2 :=
    .inr ⟨hemit, text, by rw [hkept.2]⟩
  rw [run_save]
  -- Nothing is asked about how the file comes to be written.
  generalize compile.world.files.save (setup.emitPath first root) text = saved at hwritten ⊢
  obtain ⟨_ | reason, files⟩ := saved
  · exact { hkept.1 with files := hwritten }
  · exact { hkept.1 with files := hwritten }

theorem advance_underway {next : Stage} :
    Keeps setup (fun compile => compile.Underway setup first root) (advance next) :=
  .bind .product fun _ => .bind .of_except fun _ _ hunderway => { hunderway with }

/-- The root program is installed. -/
theorem root_program_underway (h : setup.engine = logged engine)
    (hroot : ProgramName.resolve first.world.currentDirectory setup.input = .ok root)
    (domain : Engine.ModuleRef) (program : Source.Program) :
    Keeps setup (fun compile => compile.Underway setup first root)
      (do
        installProduct (rootProgram root (rootModuleOf root) domain program)
        advance .modelInstalled : Action (σ × List (Exchange σ)) π Unit) := by
  refine .bind (.bind (fun compile hunderway => ?_) fun _ _ hunderway => { hunderway with })
    fun _ => advance_underway
  exact (install_underway h (.install hroot) compile ⟨hunderway, rfl⟩).1

section

-- What becomes of the parts is known by now. Evaluating them would take much longer.
attribute [local irreducible] Action.run

/-- Installing asks for the source domain and the root program. -/
theorem run_install_underway (h : setup.engine = logged engine)
    (hroot : ProgramName.resolve first.world.currentDirectory setup.input = .ok root) :
    Triple setup
      (fun compile => compile.Underway setup first root ∧
        compile.world.files = first.world.files ∧ compile.cache = first.cache)
      runInstall
      (fun _ compile => compile.Underway setup first root)
      (fun _ compile => compile.Underway setup first root) := by
  refine .read_bind ((supply_underway h).bind fun _ => ?_)
  refine (Triple.root fun _ hkept => hkept.1.named).bind fun name => .given ?_
  rintro rfl
  refine Triple.support_reference.bind fun domain => .given fun _ => ?_
  have hparsed : Keeps setup
      (fun compile => compile.Underway setup first name ∧
        compile.world.files = first.world.files)
      (parsedProgram : Action (σ × List (Exchange σ)) π Source.Program) := by
    refine .bind .product fun product => ?_
    split
    · exact .pure
    · exact .fail
  refine (hparsed.triple.mono (fun _ => id) (fun _ _ => id) fun _ _ => And.left).bind
    fun program => ?_
  refine (Triple.product (·.rootModule = rootModuleOf name) fun _ hkept =>
    hkept.1.rootModule).bind fun product => .given fun hmodule => ?_
  rw [hmodule]
  have hinstalled := root_program_underway h hroot domain program
  split
  · rename_i hemit
    have hcurrent (compile : Compile (σ × List (Exchange σ)) π)
        (hkept : compile.Underway setup first name ∧ compile.world.files = first.world.files) :
        compile.world.currentDirectory = first.world.currentDirectory := by
      rw [World.currentDirectory, hkept.2]
      rfl
    refine (Triple.output_directory hcurrent).bind fun directory => .given ?_
    rintro rfl
    refine Triple.bind (Q := fun _ compile => compile.Underway setup first name) ?_ fun _ => ?_
    · exact save_underway hemit _
    · exact hinstalled.triple
  · exact hinstalled.triple.mono (fun _ => And.left) (fun _ _ => id) fun _ _ => id

end

/-! ## Checking -/

/-- The last request was to check the root file, and this was the answer. -/
def Answered (compile first : Compile (σ × List (Exchange σ)) π) (root : ProgramName)
    (outcome : Engine.QueryOutcome) : Prop :=
  ∃ earlier state, compile.world.engine.2 =
    first.world.engine.2 ++ (earlier ++ [⟨state, rootQuery root, .queried outcome⟩])

/-- Everything known of a compile that has asked for the check, while it looks at the answer. -/
def Weighs (setup : Setup (σ × List (Exchange σ)) π)
    (compile first : Compile (σ × List (Exchange σ)) π) (root : ProgramName)
    (outcome : Engine.QueryOutcome) : Prop :=
  compile.Underway setup first root ∧ Answered compile first root outcome

/-- The engine is asked to check the root module, and the answer is the last one. -/
theorem ask_weighs (h : setup.engine = logged engine)
    (hroot : ProgramName.resolve first.world.currentDirectory setup.input = .ok root) :
    Triple setup (fun compile => compile.Underway setup first root)
      (ask .query (setup.engine.query root (rootModuleOf root) [rootModuleOf root ++ ".requires"]))
      (fun outcome compile => Weighs setup compile first root outcome)
      (fun _ compile => compile.Underway setup first root) := by
  rw [h]
  refine .ask_log (fun compile outcome next hunderway _ => ?_) fun _ error next hunderway _ =>
    hunderway.exchanged (.check hroot) _ _
  obtain ⟨before, hlog, -⟩ := hunderway.asked
  refine ⟨hunderway.exchanged (.check hroot) _ _, before, compile.world.engine.1, ?_⟩
  rw [← List.append_assoc, ← hlog]
  rfl

theorem Weighs.add_flags {outcome : Engine.QueryOutcome} {flags : List Flag} :
    Keeps setup (fun compile => Weighs setup compile first root outcome)
      (addFlags flags : Action (σ × List (Exchange σ)) π Unit) :=
  fun _ h => ⟨{ h.1 with }, h.2⟩

/-- The proofs of a pattern are found, or the check fails. -/
theorem proofs_of_enumerates (outcome : Engine.QueryOutcome) (pattern : String) :
    Triple setup (fun compile => Weighs setup compile first root outcome)
      (proofsOf outcome pattern)
      (fun _ compile => Weighs setup compile first root outcome ∧
        (outcome.enumerate pattern 1).isOk = true)
      (fun _ compile => compile.Underway setup first root) := by
  unfold proofsOf
  refine (Triple.of_except fun _ _ _ hweighs => hweighs.1).mono (fun _ => id) ?_ fun _ _ => id
  rintro found compile ⟨hweighs, hfound⟩
  exact ⟨hweighs, by rw [hfound]; rfl⟩

/-- All patterns are looked for before the check can pass. -/
theorem record_errors_enumerates (outcome : Engine.QueryOutcome) (kinds : List ErrorPattern) :
    Triple setup (fun compile => Weighs setup compile first root outcome)
      (recordErrors outcome root kinds)
      (fun _ compile => Weighs setup compile first root outcome ∧
        ∀ kind ∈ kinds, (outcome.enumerate kind.pattern 1).isOk = true)
      (fun _ compile => compile.Underway setup first root) := by
  induction kinds with
  | nil => exact .pure fun _ hweighs => ⟨hweighs, List.forall_mem_nil _⟩
  | cons kind rest ih =>
    refine (proofs_of_enumerates outcome kind.pattern).bind fun found => .given fun hkind => ?_
    refine Weighs.add_flags.triple.mono (fun _ => id) (fun _ _ => id) (fun _ _ => And.left)
      |>.bind fun _ => ih.mono (fun _ => id) (fun _ compile ⟨hweighs, hrest⟩ => ?_) fun _ _ => id
    exact ⟨hweighs, List.forall_mem_cons.2 ⟨hkind, hrest⟩⟩

/-- The check passes if the requirements hold and no error was recorded. -/
theorem conclude_approves (outcome : Engine.QueryOutcome)
    (hasked : ∀ pattern ∈ asked setup.options, (outcome.enumerate pattern 1).isOk = true) :
    Triple setup (fun compile => Weighs setup compile first root outcome)
      (do
        if outcome.conclusion ≠ .holds ∨ (← Action.product).diagnostics.hasErrors then
          Action.fail (.phase "check")
        Action.advance .checked)
      (fun _ compile => compile.Prepared setup first root)
      (fun _ compile => compile.Underway setup first root) := by
  -- Moving on changes neither the log nor the flags that were just looked at.
  have hmoved : Keeps setup
      (fun compile => Weighs setup compile first root outcome ∧
        compile.product.diagnostics.hasErrors = false)
      (advance .checked) :=
    .bind .product fun _ => .bind .of_except fun _ _ h => ⟨⟨{ h.1.1 with }, h.1.2⟩, h.2⟩
  intro compile hweighs
  simp only [run_bind, run_product]
  split
  · exact hweighs.1
  · rename_i hpassed
    obtain ⟨hholds, hspotless⟩ := not_or.1 hpassed
    refine (hmoved.triple compile ⟨hweighs, Bool.eq_false_iff.2 hspotless⟩).mono ?_
      fun _ _ hkept => hkept.1.1
    rintro _ after ⟨⟨hunderway, earlier, state, hlog⟩, hafter⟩
    exact ⟨hunderway, _, hlog, ⟨earlier, state, outcome, rfl, not_not.1 hholds, hasked⟩, hafter⟩

/-- A check that goes through has asked for the root module, has found the proofs of all patterns
and has recorded no error. -/
theorem run_check_approves (h : setup.engine = logged engine)
    (hroot : ProgramName.resolve first.world.currentDirectory setup.input = .ok root) :
    Triple setup (fun compile => compile.Underway setup first root)
      runCheck
      (fun _ compile => compile.Prepared setup first root)
      (fun _ compile => compile.Underway setup first root) := by
  refine .read_bind ((Triple.root fun _ hunderway => hunderway.named).bind fun name => .given ?_)
  rintro rfl
  refine (Triple.product (·.rootModule = rootModuleOf name) fun _ hunderway =>
    hunderway.rootModule).bind fun product => .given fun hmodule => ?_
  rw [hmodule]
  refine (ask_weighs h hroot).bind fun outcome => ?_
  have hkept (flags : List Flag) : Triple setup
      (fun compile => Weighs setup compile first name outcome) (addFlags flags)
      (fun _ compile => Weighs setup compile first name outcome)
      (fun _ compile => compile.Underway setup first name) :=
    Weighs.add_flags.triple.mono (fun _ => id) (fun _ _ => id) fun _ _ => And.left
  refine (hkept _).bind fun _ => (record_errors_enumerates outcome errorPatterns).bind fun _ =>
    .given fun herrors => ?_
  have herrors' : ∀ pattern ∈ errorPatterns.map ErrorPattern.pattern,
      (outcome.enumerate pattern 1).isOk = true := List.forall_mem_map.2 herrors
  cases hprint : setup.options.printTypes with
  | true =>
    simp only [if_true]
    refine (proofs_of_enumerates outcome typePattern).bind fun found => .given fun htypes => ?_
    refine (hkept _).bind fun _ => conclude_approves outcome ?_
    rw [asked, hprint]
    exact List.forall_mem_append.2 ⟨herrors', List.forall_mem_singleton.2 htypes⟩
  | false =>
    simp only [Bool.false_eq_true, if_false]
    refine conclude_approves outcome ?_
    rw [asked, hprint]
    exact List.forall_mem_append.2 ⟨herrors', List.forall_mem_nil _⟩

end Phase

/-! ## Compiles -/

namespace Compiler

/-- Before its check a compile stops having only prepared its program, and having asked for nothing
but a reset if the files cannot be resolved. -/
def Stops (setup : Setup (σ × List (Exchange σ)) π)
    (compile first : Compile (σ × List (Exchange σ)) π) : Prop :=
  compile.Resets first ∨
    ∃ root, setup.Resolves first root ∧ compile.Underway setup first root

/-- The preparation of a compile ends with a check that has passed, or stops before. -/
theorem prepare_approves (h : setup.engine = logged engine) (hstage : first.product.stage = .idle) :
    Triple setup (fun compile => compile = first) (prepare setup.options)
      (fun _ compile => ∃ root, setup.Resolves first root ∧ compile.Prepared setup first root)
      (fun _ compile => Stops setup compile first) := by
  have hreset : Triple setup (fun compile => compile = first) reset
      (fun _ compile => compile.Resets first ∧ compile.world.parser = first.world.parser ∧
        compile.product.stage = .idle)
      (fun _ compile => Stops setup compile first) :=
    (reset_resets h).mono (fun _ => id)
      (fun _ _ ⟨hresets, hparser, hproduct⟩ => ⟨hresets, hparser, hproduct ▸ hstage⟩)
      fun _ _ hresets => .inl hresets
  have hparse : Triple setup
      (fun compile => compile.Resets first ∧ compile.world.parser = first.world.parser ∧
        compile.product.stage = .idle)
      Phase.parse.run
      (fun _ compile => ∃ root, setup.Resolves first root ∧ compile.Underway setup first root ∧
        compile.world.files = first.world.files ∧ compile.cache = first.cache)
      (fun _ compile => Stops setup compile first) :=
    Phase.run_parse_resolves.mono (fun _ => id) (fun _ _ => id) fun _ _ hresets => .inl hresets
  have hinstall : Triple setup
      (fun compile => ∃ root, setup.Resolves first root ∧ compile.Underway setup first root ∧
        compile.world.files = first.world.files ∧ compile.cache = first.cache)
      Phase.install.run
      (fun _ compile => ∃ root, setup.Resolves first root ∧ compile.Underway setup first root)
      (fun _ compile => Stops setup compile first) := by
    rintro compile ⟨root, hresolves, hready⟩
    exact (Phase.run_install_underway h hresolves.1 compile hready).mono
      (fun _ _ hunderway => ⟨root, hresolves, hunderway⟩)
      fun _ _ hunderway => .inr ⟨root, hresolves, hunderway⟩
  have hcheck : Triple setup
      (fun compile => ∃ root, setup.Resolves first root ∧ compile.Underway setup first root)
      Phase.check.run
      (fun _ compile => ∃ root, setup.Resolves first root ∧ compile.Prepared setup first root)
      (fun _ compile => Stops setup compile first) := by
    rintro compile ⟨root, hresolves, hunderway⟩
    exact (Phase.run_check_approves h hresolves.1 compile hunderway).mono
      (fun _ _ happroved => ⟨root, hresolves, happroved⟩)
      fun _ _ hstopped => .inr ⟨root, hresolves, hstopped⟩
  refine hreset.bind fun _ =>
    Pipeline.run_phases_enabled (fun _ => rfl) (Pipeline.run_phase_triple ?_ ?_ hparse) ?_
  · exact fun _ _ _ ⟨hresets, hparser, hidle⟩ => ⟨{ hresets with }, hparser, hidle⟩
  · exact fun _ _ _ ⟨root, hresolves, hunderway, hfiles, hcache⟩ =>
      ⟨root, hresolves, { hunderway with }, hfiles, hcache⟩
  refine Pipeline.run_phases_enabled (fun _ => rfl) (Pipeline.run_phase_triple ?_ ?_ hinstall) ?_
  · exact fun _ _ _ ⟨root, hresolves, hunderway, hfiles, hcache⟩ =>
      ⟨root, hresolves, { hunderway with }, hfiles, hcache⟩
  · exact fun _ _ _ ⟨root, hresolves, hunderway⟩ => ⟨root, hresolves, { hunderway with }⟩
  refine Pipeline.run_phases_enabled (fun _ => rfl) (Pipeline.run_phase_triple ?_ ?_ hcheck) ?_
  · exact fun _ _ _ ⟨root, hresolves, hunderway⟩ => ⟨root, hresolves, { hunderway with }⟩
  · exact fun _ _ _ ⟨root, hresolves, hunderway, before, hlog, happroved⟩ =>
      ⟨root, hresolves, { hunderway with }, before, hlog, { happroved with }⟩
  exact .pure fun _ => id

/-- Whatever is generated, the log only grows. -/
theorem generate_grows (h : setup.engine = logged engine) (start : List (Exchange σ)) :
    Keeps setup (fun compile => start <+: compile.world.engine.2)
      (generate setup.options : Action (σ × List (Exchange σ)) π Unit) := by
  have hgrows : setup.engine.Preserves fun state => start <+: state.2 :=
    h ▸ Engine.logged_preserves engine start
  have hphases : ∀ phase ∈ (Pipeline.generating : List (Phase (σ × List (Exchange σ)) π)),
      Keeps setup (fun compile => start <+: compile.world.engine.2) phase.run :=
    fun phase hphase => Phase.built_in_conserves hgrows phase
      (List.mem_append_right [Phase.parse, Phase.install, Phase.check] hphase)
  have hpassive {α : Type} {action : Action (σ × List (Exchange σ)) π α}
      (h : Passive setup action) :
      Keeps setup (fun compile => start <+: compile.world.engine.2) action :=
    (upkeep_engine hgrows).quiet h.gentle.quiet ()
  exact .bind (Pipeline.run_phases_keeps (Pipeline.plugins_accompany hpassive _) hphases)
    fun _ => hpassive Passive.advance

/-- An analysis generates nothing. -/
theorem generate_of_analyze (hanalyze : setup.options.analyze = true) :
    Keeps setup (fun second => second.world = compile.world)
      (generate setup.options : Action (σ × List (Exchange σ)) π Unit) := by
  have hdisabled (other : Bool) : (!setup.options.analyze && other) = false := by
    rw [hanalyze]
    rfl
  refine Triple.keeps (.bind (Pipeline.run_phases_disabled (fun _ => hdisabled _)
    (Pipeline.run_phases_disabled (fun _ => hdisabled _) (.pure fun _ => id))) fun _ => ?_)
  exact Keeps.triple (.bind .product fun _ => .bind .of_except fun _ _ h => h)

/-- A compile that stops before its check has passed does nothing more. -/
theorem world_of_stopped {failure : Failure}
    (hrun : (prepare setup.options).run setup first = (.error failure, compile)) :
    (runPhases setup first).world = compile.world := by
  rw [runPhases, run_prepare_generate, run_bind, hrun]
  rfl

/-- A compile whose check has passed goes on to generate. -/
theorem world_of_prepared
    (hrun : (prepare setup.options).run setup first = (.ok (), compile)) :
    (runPhases setup first).world =
      ((generate setup.options : Action _ π Unit).run setup compile).2.world := by
  rw [runPhases, run_prepare_generate, run_bind, hrun]
  dsimp only
  rcases (generate setup.options : Action _ π Unit).run setup compile with ⟨_ | _, _⟩ <;> rfl

end Compiler

/-- Whatever engine is asked and whatever it answers, a compile first prepares its program: up to
the end of the check it asks for nothing but to remove what is left over, to supply the source
domain, to install the root program and to check it, runs no tool, and writes no file but the model
of the program, and that on demand. It asks for more, writes more or runs a tool only if the last
answer was that the requirements of the root module hold, the proofs of all patterns were found, and
no error was recorded. Only what is left over is asked for if the files cannot be resolved, and
nothing after the check by an analysis. -/
theorem generation_follows_check (engine : ModelEngine σ) (parser : Source.Parser π)
    (toolchain : Toolchain) (options : Options) (input : Path)
    (session : Session (σ × List (Exchange σ)) π) :
    let compiler : Compiler (σ × List (Exchange σ)) π := ⟨logged engine, parser, toolchain⟩
    let setup := compiler.setup options input
    let first := session.begin
    let checked := ((Compiler.prepare options).run setup first).2
    let last := (compiler.compile options input session).2
    ∃ before after,
      checked.world.engine.2 = session.world.engine.2 ++ before ∧
      last.world.engine.2 = session.world.engine.2 ++ before ++ after ∧
      (∀ exchange ∈ before, exchange.request.Prepares setup first) ∧
      checked.world.launches = session.world.launches ∧
      (checked.world.files = session.world.files ∨ options.emitModel = true ∧
        ∃ root text, setup.Resolves first root ∧
          checked.world.files = (session.world.files.save (setup.emitPath first root) text).2) ∧
      ((∃ root, setup.Resolves first root ∧ checked.Approved setup root before) ∨
        after = [] ∧ last.world.files = checked.world.files ∧
          last.world.launches = checked.world.launches) ∧
      ((∀ root, ¬setup.Resolves first root) →
        (before ++ after).map Exchange.request = first.resetting) ∧
      (options.analyze = true →
        after = [] ∧ last.world.files = checked.world.files ∧
          last.world.launches = checked.world.launches) := by
  intro compiler setup first checked last
  have hlogged : setup.engine = logged engine := rfl
  have hstage : first.product.stage = .idle := rfl
  have hends := Compiler.prepare_approves hlogged hstage first rfl
  have hworld : last.world.engine = (Compiler.runPhases setup first).world.engine ∧
      last.world.files = (Compiler.runPhases setup first).world.files ∧
      last.world.launches = (Compiler.runPhases setup first).world.launches := ⟨rfl, rfl, rfl⟩
  have hwritten {root : ProgramName} {files : FileSystem} (hresolves : setup.Resolves first root)
      (hemits : setup.Emits first root files) :
      files = session.world.files ∨ options.emitModel = true ∧ ∃ root text,
        setup.Resolves first root ∧
          files = (session.world.files.save (setup.emitPath first root) text).2 :=
    hemits.imp_right fun ⟨hemit, text, hfiles⟩ => ⟨hemit, root, text, hresolves, hfiles⟩
  rcases hrun : (Compiler.prepare setup.options).run setup first with ⟨failure | _, middle⟩ <;>
    rw [hrun] at hends
  · have hchecked : checked = middle := congrArg Prod.snd hrun
    rw [Compiler.world_of_stopped hrun] at hworld
    obtain ⟨hengine, hfiles, hlaunches⟩ := hworld
    rw [hchecked, hengine, hfiles, hlaunches]
    rcases hends with hresets | ⟨root, hresolves, hunderway⟩
    · obtain ⟨before, hlog, hrequests⟩ := hresets.asked
      refine ⟨before, [], hlog, by rw [List.append_nil, hlog]; rfl,
        Compile.prepares_of_resetting hrequests, hresets.launches, .inl hresets.files,
        .inr ⟨rfl, rfl, rfl⟩, fun _ => ?_, fun _ => ⟨rfl, rfl, rfl⟩⟩
      rw [List.append_nil, hrequests]
    · obtain ⟨before, hlog, hbefore⟩ := hunderway.asked
      exact ⟨before, [], hlog, by rw [List.append_nil, hlog]; rfl, hbefore, hunderway.launches,
        hwritten hresolves hunderway.files, .inr ⟨rfl, rfl, rfl⟩,
        fun hunresolved => absurd hresolves (hunresolved root), fun _ => ⟨rfl, rfl, rfl⟩⟩
  · have hchecked : checked = middle := congrArg Prod.snd hrun
    obtain ⟨root, hresolves, hunderway, before, hlog, happroved⟩ := hends
    obtain ⟨before', hlog', hbefore⟩ := hunderway.asked
    obtain rfl : before' = before := List.append_cancel_left (hlog'.symm.trans hlog)
    obtain ⟨after, hafter⟩ := Compiler.generate_grows hlogged middle.world.engine.2 middle
      (List.prefix_refl _)
    rw [Compiler.world_of_prepared hrun] at hworld
    obtain ⟨hengine, hfiles, hlaunches⟩ := hworld
    rw [hchecked, hengine, hfiles, hlaunches]
    refine ⟨before', after, hlog, by rw [← hafter, hlog]; rfl, hbefore, hunderway.launches,
      hwritten hresolves hunderway.files, .inl ⟨root, hresolves, happroved⟩,
      fun hunresolved => absurd hresolves (hunresolved root), fun hanalyze => ?_⟩
    have hdisabled : setup.options.analyze = true := hanalyze
    have hidle := Compiler.generate_of_analyze hdisabled middle rfl
    rw [hidle] at hafter ⊢
    exact ⟨List.append_cancel_left (hafter.trans (List.append_nil _).symm), rfl, rfl⟩

end MachineCompiler
