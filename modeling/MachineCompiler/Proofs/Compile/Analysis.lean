import MachineCompiler.Engine.Sample
import MachineCompiler.Proofs.Compile.Evaluation
import MachineCompiler.Proofs.Compile.Independence
import MachineCompiler.Proofs.Diagnostic.Order
import MachineCompiler.Proofs.Engine.Readiness
import MachineCompiler.Proofs.Source.Kept
import MachineCompiler.Proofs.Source.Listing

/-!
# What an analysis decides

An analysis parses the program of its input, installs the model and has the sample rules check it.
Each of the phases hands on to the next one what decides whether the program is in order, and fails
only when the program is not. So an analysis succeeds exactly when the sources of the program can be
told, declare no name twice, and declare every variable that is used in what is checked.
-/

namespace MachineCompiler

open Action
open Engine (Conclusion Memory QueryOutcome Rules Verdict inMemory)
open SupportModule (isAnyIn)
open Source (Declarations Line SourceFile Sources VariablesDeclared linesOf)

namespace Source

/-- The program that the input names is in order: its sources can be told, no name is declared
twice, and every variable that is used in what is checked is declared. -/
def InOrder (files : FileSystem) (input : Path) (test : Bool) : Prop :=
  ∃ root sources, ProgramName.resolve (Path.through files.currentDirectory) input = .ok root ∧
    Sources files root sources ∧ ((linesOf sources).filterMap Line.declared?).Nodup ∧
    VariablesDeclared test (linesOf sources)

end Source

/-- What the parse of an input finds. -/
structure Finding where
  root : ProgramName
  sources : List SourceFile
  declarations : Declarations
  flags : List Flag

namespace Finding

variable {π : Type}

/-- The program that is checked. -/
def program (finding : Finding) (setup : Setup Memory π) : Source.Program :=
  finding.declarations.program.checked setup.options.test

/-- The model of the program that is checked. -/
def model (finding : Finding) (setup : Setup Memory π) : Engine.Model :=
  (finding.program setup).toModel (Phase.rootModuleOf finding.root)
    (SupportModule.sourceDomain.reference setup.toolchain.supportDirectory)

/-- The sources are those of the program that the input names, and the declarations and flags are
what their lines amount to. -/
structure Right (setup : Setup Memory π) (files : FileSystem) (finding : Finding) : Prop where
  named : ProgramName.resolve (Path.through files.currentDirectory) setup.input = .ok finding.root
  sources : Sources files finding.root finding.sources
  mirrors : finding.declarations.Mirrors (linesOf finding.sources) finding.flags

/-- The program and the flags are all that was produced, and the compile is at the stage. -/
structure Held (setup : Setup Memory π) (stage : Stage) (finding : Finding) (product : Product) :
    Prop where
  stage : product.stage = stage
  diagnostics : product.diagnostics = Diagnostics.empty.addAll finding.flags
  root : product.root = some finding.root
  rootModule : product.rootModule = Phase.rootModuleOf finding.root
  program : product.program = some (finding.program setup)
  generated : product.generated = []

/-- The engine can be asked about the model of the program. -/
structure Installed (setup : Setup Memory π) (finding : Finding) (compile : Compile Memory π) :
    Prop where
  held : finding.Held setup .modelInstalled compile.product
  willing : compile.world.engine.refused = none
  model : compile.world.engine.modelOf finding.root (Phase.rootModuleOf finding.root) =
    .ok (finding.model setup)

variable {setup : Setup Memory π} {files : FileSystem} {finding : Finding}

/-- Whether a program is in order can be told from what was found. -/
theorem Right.in_order_iff (h : finding.Right setup files) :
    Source.InOrder files setup.input setup.options.test ↔
      finding.flags = [] ∧ (finding.program setup).UsesDeclared := by
  constructor
  · rintro ⟨root, sources, hnamed, hsources, hnodup, hvariables⟩
    cases h.named.symm.trans hnamed
    obtain rfl := h.sources.unique hsources
    exact ⟨h.mirrors.spotless.2 hnodup,
      (h.mirrors.program.uses_declared_iff hnodup).2 hvariables⟩
  · rintro ⟨hspotless, huses⟩
    have hnodup := h.mirrors.spotless.1 hspotless
    exact ⟨_, _, h.named, h.sources, hnodup, (h.mirrors.program.uses_declared_iff hnodup).1 huses⟩

end Finding

/-- Nothing but support programs is installed, and the records agree with the engine. -/
structure Compile.Cleared {π : Type} (setup : Setup Memory π) (files : FileSystem)
    (compile : Compile Memory π) : Prop where
  files : compile.world.files = files
  exact : compile.Exact Memory.ledger setup
  plain : compile.world.engine.Plain setup.toolchain.supportDirectory
  untracked : compile.installed.programs = []

/-- A program that is no support program is not installed. -/
theorem Compile.Cleared.not_installed {π : Type} {setup : Setup Memory π} {files : FileSystem}
    {compile : Compile Memory π} (h : compile.Cleared setup files) {name : ProgramName}
    (hname : isAnyIn setup.toolchain.supportDirectory name = false) :
    compile.world.engine.isInstalled name = false := by
  refine Bool.eq_false_iff.2 fun hinstalled => ?_
  obtain hcontains | ⟨module, -, hin⟩ := (h.exact.held_iff name).1 hinstalled
  · rw [Installed.contains, h.untracked] at hcontains
    contradiction
  · rw [SupportModule.is_any_in_iff.2 ⟨module, hin⟩] at hname
    contradiction

variable {setup : Setup Memory (List ProgramName)} {files : FileSystem} {finding : Finding}
  {compile : Compile Memory (List ProgramName)} {rules : Rules}

/-- What is compiled is a program in the line notation, which is analyzed under the sample rules;
the source domain can be supplied, and the input is no support file. -/
structure Setup.Analyzes (setup : Setup Memory (List ProgramName)) (files : FileSystem) : Prop where
  engine : setup.engine = inMemory Engine.Sample.rules
  parser : setup.parser = Source.lineParser
  supplied : ∃ text place,
    files.readText (SupportModule.sourceDomain.location setup.toolchain.supportDirectory) =
      .ok text ∧
    ProgramName.ofPath (SupportModule.sourceDomain.location setup.toolchain.supportDirectory) =
      .ok place
  input : ∀ root,
    ProgramName.resolve (Path.through files.currentDirectory) setup.input = .ok root →
      isAnyIn setup.toolchain.supportDirectory root = false
  analyze : setup.options.analyze = true
  emitModel : setup.options.emitModel = false

namespace Phase

/-! ## Parsing -/

/-- Parsing finds the program of the input, unless there is none that is in order. -/
theorem run_parse_finds (hparser : setup.parser = Source.lineParser) :
    Triple setup (fun compile => compile.Cleared setup files ∧ compile.product = .none) runParse
      (fun _ compile => ∃ finding : Finding, finding.Right setup files ∧
        compile.Cleared setup files ∧ finding.Held setup .parsed compile.product)
      (fun _ _ => ¬Source.InOrder files setup.input setup.options.test) := by
  rintro compile ⟨hcleared, hproduct⟩
  obtain rfl := hcleared.files
  cases hroot : ProgramName.resolve compile.world.currentDirectory setup.input with
  | error error =>
    simp only [runParse, run_bind, run_read, run_get, hroot]
    rintro ⟨root, _, hnamed, -⟩
    cases hroot.symm.trans hnamed
  | ok root =>
    have hfound := Source.resolve_sources compile.world.files root compile.world.parser
    rw [← hparser] at hfound
    rcases hresolve : Source.resolve compile.world.files setup.parser root compile.world.parser
      with ⟨flags | resolution, parser⟩ <;> rw [hresolve] at hfound
    · simp only [runParse, run_bind, run_read, run_get, hroot, run_resolve_files, hresolve]
      rintro ⟨_, sources, hnamed, hsources, -⟩
      cases hroot.symm.trans hnamed
      exact hfound ⟨sources, hsources⟩
    · obtain ⟨sources, declarations, hsources, hmirrors, hprogram⟩ := hfound
      rw [run_parse_of_resolved hroot hresolve (by rw [hproduct]; rfl)]
      refine ⟨⟨root, sources, declarations, resolution.flags⟩, ⟨hroot, hsources, hmirrors⟩,
        { hcleared with }, ?_⟩
      refine ⟨rfl, ?_, rfl, rfl, ?_, congrArg Product.generated hproduct⟩
      · show compile.product.diagnostics.addAll _ = _
        rw [hproduct]
        rfl
      · show some _ = some _
        rw [hprogram]
        rfl

/-! ## Installing -/

/-- The support modules of the program are supplied, and nothing else changes. -/
theorem ensure_support_holds (hengine : setup.engine = inMemory rules) {text : String}
    {place : ProgramName} {module : SupportModule}
    (hread : files.readText (module.location setup.toolchain.supportDirectory) = .ok text)
    (hplace : ProgramName.ofPath (module.location setup.toolchain.supportDirectory) = .ok place) :
    Triple setup
      (fun compile => compile.Cleared setup files ∧ finding.Held setup .parsed compile.product)
      (ensureSupport [module])
      (fun _ compile => compile.Cleared setup files ∧ finding.Held setup .parsed compile.product)
      (fun _ _ => False) := by
  rintro compile ⟨hcleared, hheld⟩
  have hnone (name : ProgramName) : ¬compile.installed.contains name = true := by
    rw [Installed.contains, hcleared.untracked]
    exact Bool.false_ne_true
  have hsupplied := run_ensure_support_cons hengine [] hcleared.exact hcleared.plain
    (fun name hcontains => absurd hcontains (hnone name)) (hcleared.files ▸ hread)
  rw [hplace] at hsupplied
  obtain ⟨engine, cache, installed, hsupplied, hrun⟩ := hsupplied
  rw [hrun]
  refine ⟨⟨hcleared.files, hsupplied.exact, hsupplied.plain, ?_⟩, hheld⟩
  exact hsupplied.programs.trans hcleared.untracked

/-- The model of a program that was just installed is found. -/
theorem model_of_installed {memory other : Memory} {root : ProgramName} {module : String}
    {domain : Engine.ModuleRef} {program : Source.Program}
    (hadded : other.installed = memory.installed ++
      [(rootProgram root module domain program).withSetting Engine.keepLineNumbers "TRUE"])
    (hnew : memory.isInstalled root = false) :
    other.modelOf root module = .ok (program.toModel module domain) := by
  have hfound := Memory.program_of_append hadded hnew
  refine Memory.model_of_ok_iff.2 ⟨_, hfound, ?_⟩
  simp [rootProgram, Engine.Program.withSetting, Engine.Program.withModel, Engine.Program.named,
    Engine.Program.model?, Source.Program.toModel]

/-- The model of the program is installed. -/
theorem run_install_installs (hengine : setup.engine = inMemory rules) {text : String}
    {place : ProgramName}
    (hread : files.readText (SupportModule.sourceDomain.location setup.toolchain.supportDirectory)
      = .ok text)
    (hplace : ProgramName.ofPath
      (SupportModule.sourceDomain.location setup.toolchain.supportDirectory) = .ok place)
    (hroot : isAnyIn setup.toolchain.supportDirectory finding.root = false)
    (hemit : setup.options.emitModel = false) :
    Triple setup
      (fun compile => compile.Cleared setup files ∧ finding.Held setup .parsed compile.product)
      runInstall (fun _ compile => finding.Installed setup compile) (fun _ _ => False) := by
  unfold runInstall
  refine .read_bind ((ensure_support_holds hengine hread hplace).bind fun _ => ?_)
  rintro compile ⟨hcleared, hheld⟩
  have hnew := hcleared.not_installed hroot
  have hinstall : (installProduct (rootProgram finding.root (rootModuleOf finding.root)
      (SupportModule.sourceDomain.reference setup.toolchain.supportDirectory)
      (finding.program setup))).run setup compile = _ :=
    run_install_new hengine hcleared.plain hnew
  have hleads : compile.product.stage.leadsTo .modelInstalled = true := by
    rw [hheld.stage]
    rfl
  simp only [run_bind, run_root, hheld.root, hheld.rootModule, run_support_reference,
    run_parsed_program hheld.program, run_product, hemit, Bool.false_eq_true, if_false, hinstall]
  rw [run_advance (by exact hleads)]
  refine ⟨{ hheld with stage := rfl }, hcleared.plain.refused, ?_⟩
  exact model_of_installed rfl hnew

/-! ## Checking -/

/-- Asked about the model of the program, the engine answers what the rules conclude. -/
theorem run_query (hengine : setup.engine = inMemory rules) (h : finding.Installed setup compile)
    (goals : List String) :
    let name := rootModuleOf finding.root
    (ask .query (setup.engine.query finding.root name goals)).run setup compile =
      (.ok (Memory.answer (rules.check (finding.model setup))), { compile with
        world := { compile.world with
          engine := compile.world.engine.record (.query finding.root name) } }) := by
  intro name
  have hmodel : (compile.world.engine.record (.query finding.root name)).modelOf finding.root name =
      .ok (finding.model setup) := h.model
  rw [run_ask, hengine]
  simp only [inMemory, Memory.start, h.willing, reduceCtorEq, if_false, hmodel]
  rfl

/-- Nothing is found when there are no proofs. -/
theorem run_proofs_of_pass {pattern : String}
    (h : (Engine.Pattern.read pattern).isOk = true) :
    (proofsOf (Memory.answer .pass) pattern).run setup compile = (.ok ⟨[], []⟩, compile) := by
  have hfound : (Memory.answer .pass).enumerate pattern 1 = .ok ⟨[], []⟩ := by
    show Engine.enumerate [] pattern 1 = _
    unfold Engine.enumerate
    cases hread : Engine.Pattern.read pattern with
    | error error =>
      rw [hread] at h
      contradiction
    | ok read => rfl
  rw [proofsOf, hfound]
  rfl

/-- No error is recorded when there are no proofs. -/
theorem run_record_errors_of_pass {root : ProgramName} {kinds : List ErrorPattern}
    (h : ∀ kind ∈ kinds, (Engine.Pattern.read kind.pattern).isOk = true) :
    (recordErrors (Memory.answer .pass) root kinds).run setup compile = (.ok (), compile) := by
  induction kinds with
  | nil => rfl
  | cons kind rest ih =>
    obtain ⟨hkind, hrest⟩ := List.forall_mem_cons.1 h
    simp only [recordErrors, run_bind, run_proofs_of_pass hkind, run_add_flags]
    exact ih hrest

/-- Every kind of error has a pattern that can be read, and so has the inferred type. -/
theorem patterns_readable :
    (∀ kind ∈ errorPatterns, (Engine.Pattern.read kind.pattern).isOk = true) ∧
      (Engine.Pattern.read typePattern).isOk = true := by
  decide +kernel

/-- A compile whose check has passed. -/
def checkedAs {π : Type} (finding : Finding) (compile : Compile Memory π) : Compile Memory π :=
  { compile with
    world := { compile.world with
      engine := compile.world.engine.record (.query finding.root (rootModuleOf finding.root)) }
    product := { compile.product with stage := .checked } }

/-- The end of a check with no proofs: it passes unless there are flags of the parse. -/
theorem concluded_of_pass {checked : Compile Memory (List ProgramName)}
    (herrors : ∀ flag ∈ finding.flags, flag.severity = .error)
    (hstage : compile.product.stage = .modelInstalled)
    (hdiagnostics : compile.product.diagnostics = Diagnostics.empty.addAll finding.flags)
    (hchecked : { compile with product := { compile.product with stage := .checked } } = checked) :
    After (fun _ second => second = checked ∧ finding.flags = []) (fun _ _ => finding.flags ≠ [])
      (Action.run (do
        if (Memory.answer .pass).conclusion ≠ .holds ∨
            (← Action.product).diagnostics.hasErrors then
          Action.fail (.phase "check")
        Action.advance .checked) setup compile) := by
  have hleads : compile.product.stage.leadsTo .checked = true := by rw [hstage]; rfl
  have hfailed : (Memory.answer .pass).conclusion ≠ .holds ∨
      compile.product.diagnostics.hasErrors = true ↔ finding.flags ≠ [] := by
    rw [hdiagnostics, Diagnostics.has_errors_add_all]
    constructor
    · rintro (hfails | ⟨flag, hflag, -⟩ | hnone)
      · exact absurd rfl hfails
      · exact List.ne_nil_of_mem hflag
      · contradiction
    · intro hflags
      obtain ⟨flag, hflag⟩ := List.exists_mem_of_ne_nil _ hflags
      exact .inr (.inl ⟨flag, hflag, by simp [Flag.isError, herrors flag hflag]⟩)
  simp only [run_bind, run_product, hfailed]
  split
  · rename_i hflags
    exact hflags
  · rename_i hflags
    rw [run_advance hleads]
    exact ⟨hchecked, not_not.1 hflags⟩

/-- A program without proofs against it passes unless there are flags of the parse. -/
theorem run_check_of_pass (hengine : setup.engine = inMemory rules)
    (h : finding.Installed setup compile) (hpass : rules.check (finding.model setup) = .pass)
    (herrors : ∀ flag ∈ finding.flags, flag.severity = .error) :
    After (fun _ second => second = checkedAs finding compile ∧ finding.flags = [])
      (fun _ _ => finding.flags ≠ []) (runCheck.run setup compile) := by
  have hquery := run_query hengine h [rootModuleOf finding.root ++ ".requires"]
  rw [hpass] at hquery
  unfold runCheck runCheckWith
  simp only [run_bind, run_read, run_root, h.held.root, run_product, h.held.rootModule, hquery,
    run_add_flags, run_record_errors_of_pass patterns_readable.1]
  -- The known fields of the product were put in; they are those that were there.
  have hsame : { compile.product with
      root := some finding.root, rootModule := rootModuleOf finding.root, stage := .checked } =
        { compile.product with stage := .checked } := by
    rw [← h.held.root, ← h.held.rootModule]
  have hchecked : { compile with
      world := { compile.world with
        engine := compile.world.engine.record (.query finding.root (rootModuleOf finding.root)) }
      product := { compile.product with
        root := some finding.root, rootModule := rootModuleOf finding.root, stage := .checked } } =
      checkedAs finding compile := by
    rw [hsame, checkedAs]
  split
  · simp only [run_bind, run_proofs_of_pass patterns_readable.2, run_add_flags]
    exact concluded_of_pass herrors h.held.stage h.held.diagnostics hchecked
  · exact concluded_of_pass herrors h.held.stage h.held.diagnostics hchecked

/-- The end of a check that has failed. -/
theorem concluded_of_fails {outcome : QueryOutcome} (h : outcome.conclusion ≠ .holds) :
    Triple setup (fun _ => True)
      (do
        if outcome.conclusion ≠ .holds ∨ (← Action.product).diagnostics.hasErrors then
          Action.fail (.phase "check")
        Action.advance .checked)
      (fun _ _ => False) (fun _ _ => True) := by
  intro compile _
  simp only [run_bind, run_product]
  rw [if_pos (.inl h)]
  trivial

/-- A program with a proof against it does not pass. -/
theorem run_check_of_fails (hengine : setup.engine = inMemory rules)
    (h : finding.Installed setup compile)
    (hfails : (rules.check (finding.model setup)).conclusion = .fails) :
    After (fun _ _ => False) (fun _ _ => True) (runCheck.run setup compile) := by
  have hquery := run_query hengine h [rootModuleOf finding.root ++ ".requires"]
  have hconcluded : (Memory.answer (rules.check (finding.model setup))).conclusion ≠ .holds := by
    show (rules.check (finding.model setup)).conclusion ≠ .holds
    rw [hfails]
    decide
  unfold runCheck runCheckWith
  simp only [run_bind, run_read, run_root, h.held.root, run_product, h.held.rootModule, hquery,
    run_add_flags]
  -- Whatever happens before the conclusion is looked at, it is a failure or goes on to that.
  split
  · split
    · simp only [run_bind, run_add_flags]
      split
      · exact concluded_of_fails hconcluded _ trivial
      · trivial
    · exact concluded_of_fails hconcluded _ trivial
  · trivial

/-- The rules have nothing against a program that uses declared variables only. -/
theorem check_passes (hright : finding.Right setup files)
    (huses : (finding.program setup).UsesDeclared) :
    Engine.Sample.rules.check (finding.model setup) = .pass := by
  have hrules : Engine.Sample.rules.check = Engine.Sample.check := rfl
  have howners : (finding.program setup).OwnersHeld := hright.mirrors.program.owners_held
  rw [hrules, Finding.model, Source.Program.check_passes howners huses]

/-- The check passes exactly the programs that are in order. -/
theorem run_check_decides (hengine : setup.engine = inMemory Engine.Sample.rules)
    (hright : finding.Right setup files) :
    Triple setup (fun compile => finding.Installed setup compile) runCheck
      (fun _ compile => compile.product.stage = .checked ∧
        Source.InOrder files setup.input setup.options.test)
      (fun _ _ => ¬Source.InOrder files setup.input setup.options.test) := by
  intro compile h
  rw [hright.in_order_iff]
  by_cases huses : (finding.program setup).UsesDeclared
  · have hpass := check_passes hright huses
    refine (run_check_of_pass hengine h hpass hright.mirrors.errors).mono ?_ ?_
    · exact fun _ _ ⟨hchecked, hflags⟩ => ⟨congrArg (·.product.stage) hchecked, hflags, huses⟩
    · exact fun _ _ hflags hpasses => hflags hpasses.1
  · have hrules : Engine.Sample.rules.check = Engine.Sample.check := rfl
    have howners : (finding.program setup).OwnersHeld := hright.mirrors.program.owners_held
    have hfails : (Engine.Sample.rules.check (finding.model setup)).conclusion = .fails := by
      rw [hrules, Finding.model, Source.Program.check_fails howners huses]
    refine (run_check_of_fails hengine h hfails).mono ?_ ?_
    · exact fun _ _ => False.elim
    · exact fun _ _ _ hpasses => huses hpasses.2

end Phase

namespace Pipeline

/-! ## Pipelines -/

/-- The phases of an analysis get to a checked program exactly if the program is in order. -/
theorem built_in_decide (h : setup.Analyzes files) :
    Triple setup (fun compile => compile.Cleared setup files ∧ compile.product = .none)
      (runPhases (Compiler.pipeline setup.options).plugins builtIn)
      (fun _ compile => compile.product.stage = .checked ∧
        Source.InOrder files setup.input setup.options.test)
      (fun _ _ => ¬Source.InOrder files setup.input setup.options.test) := by
  obtain ⟨text, place, hread, hplace⟩ := h.supplied
  have hinstall : Triple setup
      (fun compile => ∃ finding : Finding, finding.Right setup files ∧
        compile.Cleared setup files ∧ finding.Held setup .parsed compile.product)
      Phase.install.run
      (fun _ compile => ∃ finding : Finding, finding.Right setup files ∧
        finding.Installed setup compile)
      (fun _ _ => ¬Source.InOrder files setup.input setup.options.test) := by
    rintro compile ⟨finding, hright, hparsed⟩
    refine (Phase.run_install_installs h.engine hread hplace (h.input _ hright.named) h.emitModel
      compile hparsed).mono (fun _ _ hinstalled => ⟨finding, hright, hinstalled⟩) ?_
    exact fun _ _ => False.elim
  have hcheck : Triple setup
      (fun compile => ∃ finding : Finding, finding.Right setup files ∧
        finding.Installed setup compile)
      Phase.check.run
      (fun _ compile => compile.product.stage = .checked ∧
        Source.InOrder files setup.input setup.options.test)
      (fun _ _ => ¬Source.InOrder files setup.input setup.options.test) :=
    fun compile ⟨_, hright, hinstalled⟩ =>
      Phase.run_check_decides h.engine hright compile hinstalled
  refine run_phases_enabled (fun _ => rfl)
    (run_phase_triple ?_ ?_ (Phase.run_parse_finds h.parser)) ?_
  · exact fun _ _ _ ⟨hcleared, hproduct⟩ => ⟨{ hcleared with }, hproduct⟩
  · exact fun _ _ _ ⟨finding, hright, hcleared, hheld⟩ =>
      ⟨finding, hright, { hcleared with }, hheld⟩
  refine run_phases_enabled (fun _ => rfl) (run_phase_triple ?_ ?_ hinstall) ?_
  · exact fun _ _ _ ⟨finding, hright, hcleared, hheld⟩ =>
      ⟨finding, hright, { hcleared with }, hheld⟩
  · exact fun _ _ _ ⟨finding, hright, hinstalled⟩ =>
      ⟨finding, hright, { hinstalled with }⟩
  refine run_phases_enabled (fun _ => rfl) (run_phase_triple ?_ ?_ hcheck) ?_
  · exact fun _ _ _ ⟨finding, hright, hinstalled⟩ =>
      ⟨finding, hright, { hinstalled with }⟩
  · exact fun _ _ _ hchecked => hchecked
  have hgenerates (other : Bool) : (!setup.options.analyze && other) = false := by
    rw [h.analyze]
    rfl
  refine run_phases_disabled (fun _ => hgenerates _) ?_
  refine run_phases_disabled (fun _ => hgenerates _) ?_
  exact .pure fun _ hchecked => hchecked

theorem run_decides (h : setup.Analyzes files) :
    Triple setup (fun compile => compile.Cleared setup files ∧ compile.product = .none)
      (Compiler.pipeline setup.options).run
      (fun _ compile => compile.product.stage = .done ∧
        Source.InOrder files setup.input setup.options.test)
      (fun _ _ => ¬Source.InOrder files setup.input setup.options.test) := by
  unfold run
  rw [Compiler.phases_pipeline, List.append_nil]
  refine (built_in_decide h).bind fun _ => ?_
  rintro compile ⟨hstage, horder⟩
  rw [run_advance (by rw [hstage]; rfl)]
  exact ⟨rfl, horder⟩

end Pipeline

namespace Compiler

/-- After a reset nothing but support programs is installed. -/
theorem reset_clears (hengine : setup.engine = inMemory rules) :
    Triple setup
      (fun compile => compile.world.files = files ∧ compile.Exact Memory.ledger setup ∧
        compile.world.engine.refused = none ∧ compile.product = .none)
      reset (fun _ compile => compile.Cleared setup files ∧ compile.product = .none)
      (fun _ _ => False) := by
  rintro compile ⟨hfiles, hexact, hrefused, hproduct⟩
  obtain ⟨engine, installed, hrun, hprograms, hwilling⟩ := run_reset hengine hexact hrefused
  have hafter := reset_exact (keeps_ledger hengine) compile hexact
  rw [hrun] at hafter ⊢
  exact ⟨⟨hfiles, hafter, (Exact.cleared hafter hprograms hwilling).1, hprograms⟩, hproduct⟩

/-- A whole compile gets done exactly if the program is in order. -/
theorem run_decides (h : setup.Analyzes files) :
    Triple setup
      (fun compile => compile.world.files = files ∧ compile.Exact Memory.ledger setup ∧
        compile.world.engine.refused = none ∧ compile.product = .none)
      (do reset; (pipeline setup.options).run)
      (fun _ compile => compile.product.stage = .done ∧
        Source.InOrder files setup.input setup.options.test)
      (fun _ _ => ¬Source.InOrder files setup.input setup.options.test) :=
  ((reset_clears h.engine).mono (fun _ => id) (fun _ _ => id) fun _ _ => False.elim).bind
    fun _ => Pipeline.run_decides h

end Compiler

/-- An analysis succeeds exactly if the program of its input is in order. -/
theorem Compiler.succeeds_iff_in_order {compiler : Compiler Memory (List ProgramName)}
    {session : Session Memory (List ProgramName)} {options : Options} {input : Path}
    (hanalyzes : (compiler.setup options input).Analyzes session.world.files)
    (hreached : session.Reached compiler Memory.ledger)
    (hrefused : session.world.engine.refused = none) :
    (compiler.compile options input session).1 = true ↔
      Source.InOrder session.world.files input options.test := by
  have hengine : compiler.engine = inMemory Engine.Sample.rules := hanalyzes.engine
  have hexact := hreached.exact (hengine ▸ Engine.in_memory_keeps_to Engine.Sample.rules)
  have hdecides := run_decides hanalyzes session.begin ⟨rfl, hexact, hrefused, rfl⟩
  rw [succeeded_compile, runPhases]
  split <;> rename_i hrun <;> rw [hrun] at hdecides
  · exact iff_of_true (by rw [hdecides.1]; rfl) hdecides.2
  · exact iff_of_false Bool.false_ne_true hdecides

/-- What can be loaded without a cache has a file that can be read, at a place that names a
program. -/
theorem SupportCache.readable_of_load {files : FileSystem} {module : SupportModule}
    {directory : Path} {loaded : Engine.Program × SupportCache}
    (h : SupportCache.empty.load files module directory = .ok loaded) :
    ∃ text place, files.readText (module.location directory) = .ok text ∧
      ProgramName.ofPath (module.location directory) = .ok place := by
  have hnone : SupportCache.empty.find? (module.location directory) = none := rfl
  simp only [load, hnone] at h
  split at h
  · contradiction
  · split at h
    · contradiction
    · exact ⟨_, _, ‹_›, ‹_›⟩

/-! ## Files that include each other -/

namespace MutualIncludes

/-- The root file. A function uses a variable that is declared after it and in the other file, and
one of a specification machine uses a variable that is declared nowhere. -/
def mainText : String :=
  "// steps are counted\ninclude \"parts/counter.p\"\nevent Step\nmachine Main\n" ++
    "fun Main.step uses count\n\nspec machine Watch\nfun Watch.look uses hidden\n"

/-- The other file. It includes the root file under another spelling of its name. -/
def counterText : String :=
  "include \"../MAIN.p\"\nvar Main.count // for Main.step\ntype Step\nfun help\n"

/-- Both files, and those of a toolchain. -/
def tree : FileSystem :=
  ((Toolchain.laySample (.ofString "/toolchain") (.inDirectory (.ofString "/work"))).lay
    (.ofString "/work/main.p") (.file (.text mainText) .plain)).lay
    (.ofString "/work/parts/counter.p") (.file (.text counterText) .plain)

/-- The root file and its lines. -/
def main : SourceFile where
  file := ⟨(Path.ofString "/work/main.p").components.foldl ProgramName.walk []⟩
  lines := [
    .include (Line.unquoted "\"parts/counter.p\""),
    .event "Step",
    .machine .real "Main",
    .function "Main.step" (some "Main") "step" (some "count"),
    .machine .spec "Watch",
    .function "Watch.look" (some "Watch") "look" (some "hidden")]

/-- The other file and its lines. -/
def counter : SourceFile where
  file := ⟨(Path.ofString "/work/parts/counter.p").components.foldl ProgramName.walk []⟩
  lines := [
    .include (Line.unquoted "\"../MAIN.p\""),
    .variable "Main.count" "Main" "count",
    .typeDef "Step",
    .function "help" none "help" none]

/-- The input names the root file, which is no support file. -/
theorem main_at : ProgramName.resolve (Path.through tree.currentDirectory) (.ofString "main.p") =
    .ok main.file ∧ isAnyIn (.ofString "/toolchain") main.file = false := by
  decide +kernel

theorem main_named : ProgramName.resolve (Path.through tree.currentDirectory)
    (.ofString "main.p") = .ok main.file :=
  main_at.1

theorem main_apart : isAnyIn (.ofString "/toolchain") main.file = false :=
  main_at.2

theorem main_found : main.Found tree := by
  have hsentences : Source.sentences (Text.lines mainText.toList) =
      [["include", "\"parts/counter.p\""], ["event", "Step"], ["machine", "Main"],
        ["fun", "Main.step", "uses", "count"], ["spec", "machine", "Watch"],
        ["fun", "Watch.look", "uses", "hidden"]] := by decide +kernel
  refine ⟨⟨mainText, by decide +kernel, ?_⟩, fun path hpath => ?_⟩
  · rw [Source.Reads, hsentences]
    exact .cons (.include _) (.cons (.event _) (.cons (.machine _) (.cons (.user (by decide))
      (.cons (.spec _) (.cons (.user (by decide)) .nil)))))
  · obtain rfl : path = Line.unquoted "\"parts/counter.p\"" := by simpa [main] using hpath
    exact ⟨counter.file, by decide +kernel⟩

theorem counter_found : counter.Found tree := by
  have hsentences : Source.sentences (Text.lines counterText.toList) =
      [["include", "\"../MAIN.p\""], ["var", "Main.count"], ["type", "Step"],
        ["fun", "help"]] := by decide +kernel
  refine ⟨⟨counterText, by decide +kernel, ?_⟩, fun path hpath => ?_⟩
  · rw [Source.Reads, hsentences]
    exact .cons (.include _) (.cons (.variable (by decide)) (.cons (.typeDef _)
      (.cons (.helper (by decide)) .nil)))
  · obtain rfl : path = Line.unquoted "\"../MAIN.p\"" := by simpa [counter] using hpath
    exact ⟨⟨(Path.ofString "/work/MAIN.p").components.foldl ProgramName.walk []⟩, by decide +kernel⟩

theorem sources : Sources tree main.file [main, counter] where
  listing := .next (.next .start (by decide +kernel) main_found) (by decide +kernel) counter_found
  complete := by decide +kernel
  owners := by decide

/-- No name is declared twice. -/
theorem declared_once : ((linesOf [main, counter]).filterMap Line.declared?).Nodup := by
  decide

/-- Without the specification machine, all variables are declared. -/
theorem variables_declared : VariablesDeclared false (linesOf [main, counter]) := by
  intro path owner name used hline hkept
  have hcases : path = "Main.step" ∧ owner = some "Main" ∧ name = "step" ∧ used = "count" ∨
      path = "Watch.look" ∧ owner = some "Watch" ∧ name = "look" ∧ used = "hidden" := by
    simpa [linesOf, main, counter] using hline
  rcases hcases with ⟨-, rfl, -, rfl⟩ | ⟨-, rfl, -, -⟩
  · exact ⟨"Main", rfl, "Main.count", by decide⟩
  · exact absurd (hkept.resolve_left Bool.false_ne_true "Watch" rfl) (by decide)

/-- With the specification machine, one variable is not declared. -/
theorem variable_missing : ¬VariablesDeclared true (linesOf [main, counter]) := by
  intro hdeclared
  obtain ⟨machine, -, path, hline⟩ :=
    hdeclared "Watch.look" (some "Watch") "look" "hidden" (by decide) (.inl rfl)
  simp [linesOf, main, counter] at hline

end MutualIncludes

/-! ## Analyses -/

/-- An analysis under the sample rules, with an engine that refuses nothing, a source domain that
can be read, and an input that is no support file, succeeds exactly when the program of the input is
in order: the files that it leads to can be found and say lines, with every machine declared before
the lines that need it, no name is declared twice, and every variable that is used in what is
checked is declared. -/
theorem analysis_is_exact {compiler : Compiler Memory (List ProgramName)}
    {session : Session Memory (List ProgramName)} {options : Options} {input : Path}
    (hengine : compiler.engine = inMemory Engine.Sample.rules)
    (hparser : compiler.parser = Source.lineParser)
    (hreached : session.Reached compiler Memory.ledger)
    (hrefused : session.world.engine.refused = none)
    (hreadable : ∃ loaded, SupportCache.empty.load session.world.files .sourceDomain
      compiler.toolchain.supportDirectory = .ok loaded)
    (hinput : ∀ root, ProgramName.resolve session.world.currentDirectory input = .ok root →
      isAnyIn compiler.toolchain.supportDirectory root = false)
    (hanalyze : options.analyze = true) (hemit : options.emitModel = false) :
    (compiler.compile options input session).1 = true ↔
      ∃ root sources,
        ProgramName.resolve session.world.currentDirectory input = .ok root ∧
        Sources session.world.files root sources ∧
        ((linesOf sources).filterMap Line.declared?).Nodup ∧
        VariablesDeclared options.test (linesOf sources) := by
  obtain ⟨loaded, hloaded⟩ := hreadable
  exact Compiler.succeeds_iff_in_order
    ⟨hengine, hparser, SupportCache.readable_of_load hloaded, hinput, hanalyze, hemit⟩ hreached
    hrefused

/-- An analysis of two files that include each other succeeds, and fails in tests because of a
variable that only the specification machine uses. -/
theorem analysis_is_exact_of_mutual_includes :
    let compiler : Compiler Memory (List ProgramName) :=
      ⟨inMemory Engine.Sample.rules, Source.lineParser, .inDirectory (.ofString "/toolchain")⟩
    let world : World Memory (List ProgramName) :=
      ⟨.empty, [], MutualIncludes.tree, [], [], .still⟩
    let analyzed (test : Bool) := (compiler.compile
      { Options.default with analyze := true, test } (.ofString "main.p") (.start world)).1
    analyzed false = true ∧ analyzed true = false := by
  intro compiler world analyzed
  have hinput (root : ProgramName)
      (h : ProgramName.resolve world.currentDirectory (.ofString "main.p") = .ok root) :
      isAnyIn (.ofString "/toolchain") root = false := by
    cases MutualIncludes.main_named.symm.trans h
    exact MutualIncludes.main_apart
  have hexact (test : Bool) := @analysis_is_exact compiler (.start world)
    { Options.default with analyze := true, test } (.ofString "main.p") rfl rfl (.start trivial rfl)
    rfl ⟨_, rfl⟩ hinput rfl rfl
  constructor
  · exact (hexact false).2 ⟨_, _, MutualIncludes.main_named, MutualIncludes.sources,
      MutualIncludes.declared_once, MutualIncludes.variables_declared⟩
  · refine Bool.eq_false_iff.2 fun hdone => ?_
    obtain ⟨root, sources, hnamed, hsources, -, hdeclared⟩ := (hexact true).1 hdone
    cases MutualIncludes.main_named.symm.trans hnamed
    obtain rfl := hsources.unique MutualIncludes.sources
    exact MutualIncludes.variable_missing hdeclared

end MachineCompiler
