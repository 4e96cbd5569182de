import MachineCompiler.Proofs.Compile.Analysis
import MachineCompiler.Proofs.Compile.Lowering

/-!
# What a compile generates

A program that passes analysis is compiled to C. The bench is followed through the phases: what was
parsed is installed, passes the check and is lowered, so that the first generated file lists the
functions that the sources implement, in the order of their lines.
-/

namespace MachineCompiler

open Action
open Engine (Memory Program inMemory)
open SupportModule (isAnyIn)
open Source (Line Sources implementedFunctions linesOf)

/-- The paths that a compile to C writes to, in their order. -/
def Options.writes (options : Options) (directory : Path) (root : ProgramName) : List Path :=
  (if options.emitModel then [Phase.modelPath directory (Phase.rootModuleOf root)] else []) ++
    [Phase.cPath directory (options.outputBase root),
      Phase.modelPath directory (Phase.rootModuleOf root ++ "_LinkModel"),
      Phase.linkerPath directory]

/-- What is available stays so when files are written. -/
theorem SupportModule.Available.grows {module : SupportModule} {files files' : FileSystem}
    {directory : Path} (h : module.Available files directory) (hgrows : files.Grows files') :
    module.Available files' directory := by
  obtain ⟨text, place, hread, hplace⟩ := h
  obtain ⟨text', hread'⟩ := hgrows.read_text hread
  exact ⟨text', place, hread', hplace⟩

/-- Nothing is on the bench when nothing but support programs is installed. -/
theorem Compile.Cleared.is_at {π : Type} {setup : Setup Memory π} {files : FileSystem}
    {compile : Compile Memory π} (h : compile.Cleared setup files) :
    compile.At setup ⟨[], [], files, compile.product⟩ where
  exact := h.exact
  plain := h.plain
  own := (Exact.cleared h.exact h.untracked h.plain.refused).2
  tracked name hcontains := by
    rw [Installed.contains, h.untracked] at hcontains
    contradiction
  marked := List.forall_mem_nil _
  files := h.files
  product := rfl

variable {setup : Setup Memory (List ProgramName)} {files : FileSystem} {finding : Finding}
  {bench : Bench} {directory : Path}

namespace Phase

/-! ## Installing and checking -/

/-- A new program is installed until the next compile. -/
theorem makes_install_product (hengine : setup.engine = inMemory Engine.Sample.rules)
    {program : Program} (hnew : bench.IsNew setup program.name)
    (hstage : bench.product.stage = .parsed) :
    Makes setup bench (do installProduct program; Action.advance .modelInstalled) ()
      ((bench.adding (program.withSetting Engine.keepLineNumbers "TRUE")).moved .modelInstalled) := by
  refine .bind (.install_temporary hengine hnew) (.advance ?_)
  show bench.product.stage.leadsTo .modelInstalled = true
  rw [hstage]
  rfl

/-- The program that is installed for what was found. -/
def installed (setup : Setup Memory (List ProgramName)) (finding : Finding) : Program :=
  rootProgram finding.root (rootModuleOf finding.root)
    (SupportModule.sourceDomain.reference setup.toolchain.supportDirectory) (finding.program setup)

/-- The root model is written to its file on demand, and installed. -/
theorem makes_install (hengine : setup.engine = inMemory Engine.Sample.rules)
    (houtput : bench.output setup = directory) (hheld : finding.Held setup .parsed bench.product)
    (havailable : SupportModule.sourceDomain.Available bench.files
      setup.toolchain.supportDirectory)
    (hnew : bench.IsNew setup finding.root)
    (hsave : if setup.options.emitModel then
        bench.files.save (modelPath directory (rootModuleOf finding.root))
          (installed setup finding).print = (none, files)
      else bench.files = files) :
    Makes setup bench runInstall ()
      (({ bench with support := [SupportModule.sourceDomain] ++ bench.support, files }.adding
        ((installed setup finding).withSetting Engine.keepLineNumbers "TRUE")).moved
          .modelInstalled) := by
  have hprogram (support : List SupportModule) : Makes setup { bench with support } parsedProgram
      (finding.program setup) { bench with support } :=
    fun compile hat => ⟨compile, run_parsed_program (hat.product ▸ hheld.program), hat⟩
  have hinstall : Makes setup
      { bench with support := [SupportModule.sourceDomain] ++ bench.support, files }
      (do installProduct (installed setup finding); Action.advance .modelInstalled) () _ :=
    makes_install_product hengine ⟨hnew.apart, hnew.free⟩ hheld.stage
  unfold runInstall
  refine .read_bind (.bind (.ensure_support hengine (List.forall_mem_singleton.2 havailable)) ?_)
  refine .bind (.root hheld.root) (.bind .support_reference (.bind (hprogram _) (.bind .product ?_)))
  simp only [hheld.rootModule]
  split
  · rename_i hemit
    rw [if_pos hemit] at hsave
    exact .bind (.output_directory houtput) (.bind (.save hsave) hinstall)
  · rename_i hemit
    rw [if_neg hemit] at hsave
    obtain rfl := hsave
    exact hinstall

/-- The check passes a program that is in order. -/
theorem makes_check (hengine : setup.engine = inMemory Engine.Sample.rules)
    (hright : finding.Right setup files) (hspotless : finding.flags = [])
    (huses : (finding.program setup).UsesDeclared)
    (hheld : finding.Held setup .modelInstalled bench.product)
    (hroot : isAnyIn setup.toolchain.supportDirectory finding.root = false)
    (hmodel : bench.memory.modelOf finding.root (rootModuleOf finding.root) =
      .ok (finding.model setup)) :
    Makes setup bench runCheck () (bench.moved .checked) := by
  intro compile hat
  have hinstalled : finding.Installed setup compile :=
    ⟨hat.product ▸ hheld, hat.plain.refused, (hat.agree.model_of hroot _).trans hmodel⟩
  have hafter := run_check_of_pass hengine hinstalled (check_passes hright huses)
    hright.mirrors.errors
  rcases hrun : runCheck.run setup compile with ⟨_ | _, second⟩ <;> rw [hrun] at hafter
  · exact absurd hspotless hafter
  · obtain ⟨rfl, -⟩ := hafter
    refine ⟨_, rfl, { hat with
      exact := hat.exact.same ⟨trivial, rfl⟩
      plain := hat.plain.record _
      product := ?_ }⟩
    rw [checkedAs, Bench.moved, ← hat.product]

end Phase

/-! ## Pipelines -/

/-- Where the files go that are generated from the current directory of a file system. -/
def Setup.output {σ π : Type} (setup : Setup σ π) (files : FileSystem) : Path :=
  setup.options.outputDirectoryIn (Path.through files.currentDirectory)

/-- A program in the line notation is compiled to C only, under the sample rules. The support
modules are available, the root file is none of them, and all files can be written, the two
generated ones at different places. -/
structure Setup.Generates (setup : Setup Memory (List ProgramName)) (files : FileSystem)
    (root : ProgramName) : Prop where
  engine : setup.engine = inMemory Engine.Sample.rules
  parser : setup.parser = Source.lineParser
  source : SupportModule.sourceDomain.Available files setup.toolchain.supportDirectory
  target : ∀ module ∈ [.targetDomain, .linkTransform, .targetTransform],
    SupportModule.Available module files setup.toolchain.supportDirectory
  named : ProgramName.resolve (Path.through files.currentDirectory) setup.input = .ok root
  input : isAnyIn setup.toolchain.supportDirectory root = false
  test : setup.options.test = false
  analyze : setup.options.analyze = false
  noC : setup.options.noC = false
  writes : files.canWrite (setup.options.writes (setup.output files) root) = true
  apart : files.placeOf (Phase.cPath (setup.output files) (setup.options.outputBase root)) ≠
    files.placeOf (Phase.linkerPath (setup.output files))

/-- The compile has generated two files, and the first one lists the functions. -/
structure Compile.Generated (setup : Setup Memory (List ProgramName)) (files : FileSystem)
    (root : ProgramName) (functions : List String) (compile : Compile Memory (List ProgramName)) :
    Prop where
  generated : compile.product.generated =
    [Phase.cPath (setup.output files) (setup.options.outputBase root),
      Phase.linkerPath (setup.output files)]
  listed : compile.world.files.readText
      (Phase.cPath (setup.output files) (setup.options.outputBase root)) =
    .ok ("// functions: " ++ String.intercalate ", " functions ++ "\n")

namespace Pipeline

/-- It does not matter for the bench what was said and what time it is. -/
theorem timeless_at (bench : Bench) : Timeless (Compile.At setup bench) :=
  fun _ _ _ hat => { hat with }

/-- The root model is written to its file on demand, and the other files can be written then. -/
theorem exists_model_written {root : ProgramName} (h : setup.Generates files root) (text : String) :
    ∃ written,
      (if setup.options.emitModel then
        files.save (Phase.modelPath (setup.output files) (Phase.rootModuleOf root)) text =
          (none, written)
      else files = written) ∧ files.Grows written ∧
      written.canWrite [Phase.cPath (setup.output files) (setup.options.outputBase root),
        Phase.modelPath (setup.output files) (Phase.rootModuleOf root ++ "_LinkModel"),
        Phase.linkerPath (setup.output files)] = true := by
  have hwrites := h.writes
  unfold Options.writes at hwrites
  by_cases hemit : setup.options.emitModel = true
  · rw [if_pos hemit] at hwrites
    obtain ⟨written, hsave, hrest⟩ := FileSystem.save_of_can_write hwrites text
    exact ⟨written, by rw [if_pos hemit, hsave], FileSystem.grows_of_save hsave, hrest⟩
  · rw [if_neg hemit] at hwrites
    exact ⟨files, by rw [if_neg hemit], .refl files, hwrites⟩

/-- Outside of tests the model has the functions that the sources implement. -/
theorem functions_of_model (hright : finding.Right setup files) (htest : setup.options.test = false)
    (hspotless : finding.flags = []) :
    Engine.Sample.namesOf (finding.model setup) "FunDecl" =
      implementedFunctions (linesOf finding.sources) := by
  have hprogram : finding.program setup = finding.declarations.program.implementation := by
    rw [Finding.program, htest]
    rfl
  rw [Finding.model, Source.Program.names_of_functions, hprogram]
  exact hright.mirrors.program.implemented_functions_eq (hright.mirrors.spotless.1 hspotless)

/-- What was parsed and is in order is installed, passes the check and is lowered to C. -/
theorem parsed_generates (h : setup.Generates files finding.root)
    (hright : finding.Right setup files)
    (hspotless : finding.flags = []) (huses : (finding.program setup).UsesDeclared)
    {product : Product} (hheld : finding.Held setup .parsed product) :
    Triple setup (Compile.At setup ⟨[], [], files, product⟩)
      (runPhases (Compiler.pipeline setup.options).plugins
        [Phase.install, Phase.check, Phase.generateC, Phase.generateVerification])
      (fun _ compile => compile.product.stage = .cTargetGenerated ∧
        compile.Generated setup files finding.root (implementedFunctions (linesOf finding.sources)))
      (fun _ _ => False) := by
  obtain ⟨written, hsave, hgrows, hwrites⟩ :=
    exists_model_written h (Phase.installed setup finding).print
  let program := (Phase.installed setup finding).withSetting Engine.keepLineNumbers "TRUE"
  let installed : Bench :=
    ((⟨[.sourceDomain], [], written, product⟩ : Bench).adding program).moved .modelInstalled
  have hinstall : Makes setup ⟨[], [], files, product⟩ Phase.runInstall () installed :=
    Phase.makes_install h.engine rfl hheld h.source ⟨h.input, List.forall_mem_nil _⟩ hsave
  have hadded : installed.memory.installed = Memory.empty.installed ++ [program] := rfl
  have hmodel : installed.memory.modelOf finding.root (Phase.rootModuleOf finding.root) =
      .ok (finding.model setup) :=
    Phase.model_of_installed hadded rfl
  have hcheck : Makes setup installed Phase.runCheck () (installed.moved .checked) :=
    Phase.makes_check h.engine hright hspotless huses { hheld with stage := rfl } h.input hmodel
  have houtput : (installed.moved .checked).output setup = setup.output files :=
    congrArg (fun current => setup.options.outputDirectoryIn (Path.through current)) hgrows.current
  have hholds : (installed.moved .checked).HoldsRoot program (finding.model setup) :=
    ⟨rfl, rfl, hheld.rootModule.symm, hheld.root, hheld.rootModule⟩
  have htarget : ∀ module ∈ [.targetDomain, .linkTransform, .targetTransform],
      SupportModule.Available module written setup.toolchain.supportDirectory :=
    fun module hmodule => (h.target module hmodule).grows hgrows
  rw [← hheld.rootModule] at hwrites
  have hpaths : written.placeOf (Phase.cPath (setup.output files)
      (setup.options.outputBase program.name)) ≠
        written.placeOf (Phase.linkerPath (setup.output files)) := by
    rw [hgrows.place_of, hgrows.place_of]
    exact h.apart
  obtain ⟨bench, hgenerate, hstage, hgenerated, hlisted⟩ :=
    Phase.makes_generate_c h.engine hholds houtput rfl htarget hwrites hpaths
  have hfunctions := functions_of_model hright h.test hspotless
  have hphases : Triple setup (Compile.At setup ⟨[], [], files, product⟩)
      (runPhases (Compiler.pipeline setup.options).plugins
        [Phase.install, Phase.check, Phase.generateC, Phase.generateVerification])
      (fun _ => Compile.At setup bench) (fun _ _ => False) := by
    have hgenerates : (!setup.options.analyze && !setup.options.noC) = true := by
      rw [h.analyze, h.noC]
      rfl
    have hverifies : (!setup.options.analyze && setup.options.test) = false := by
      rw [h.test, Bool.and_false]
    refine run_phases_enabled (fun _ => rfl)
      (run_phase_triple (timeless_at _) (timeless_at installed) hinstall.triple) ?_
    refine run_phases_enabled (fun _ => rfl)
      (run_phase_triple (timeless_at _) (timeless_at (installed.moved .checked)) hcheck.triple) ?_
    refine run_phases_enabled (fun _ => hgenerates)
      (run_phase_triple (timeless_at _) (timeless_at bench) hgenerate.triple) ?_
    exact run_phases_disabled (fun _ => hverifies) (.pure fun _ hat => hat)
  refine hphases.mono (fun _ => id) (fun _ compile hat => ⟨?_, ?_, ?_⟩) fun _ _ => id
  · rw [hat.product]
    exact hstage
  · have hnone : (installed.moved .checked).product.generated = [] := hheld.generated
    rw [hat.product, hgenerated, hnone]
    rfl
  · rw [hat.files, ← hfunctions]
    exact hlisted

/-- A program that is in order is compiled. -/
theorem run_generates {root : ProgramName} {sources : List Source.SourceFile}
    (h : setup.Generates files root) (hsources : Sources files root sources)
    (horder : Source.InOrder files setup.input setup.options.test) :
    Triple setup (fun compile => compile.Cleared setup files ∧ compile.product = .none)
      (Compiler.pipeline setup.options).run
      (fun _ compile => compile.product.stage = .done ∧
        compile.Generated setup files root (implementedFunctions (linesOf sources)))
      (fun _ _ => False) := by
  have hparse : Triple setup (fun compile => compile.Cleared setup files ∧ compile.product = .none)
      Phase.parse.run
      (fun _ compile => ∃ finding : Finding, finding.Right setup files ∧
        compile.Cleared setup files ∧ finding.Held setup .parsed compile.product)
      (fun _ _ => False) :=
    (Phase.run_parse_finds h.parser).mono (fun _ => id) (fun _ _ => id)
      fun _ _ hnot => hnot horder
  have hphases : Triple setup
      (fun compile => compile.Cleared setup files ∧ compile.product = .none)
      (runPhases (Compiler.pipeline setup.options).plugins builtIn)
      (fun _ compile => compile.product.stage = .cTargetGenerated ∧
        compile.Generated setup files root (implementedFunctions (linesOf sources)))
      (fun _ _ => False) := by
    refine run_phases_enabled (fun _ => rfl) (run_phase_triple ?_ ?_ hparse) ?_
    · exact fun _ _ _ ⟨hcleared, hproduct⟩ => ⟨{ hcleared with }, hproduct⟩
    · exact fun _ _ _ ⟨finding, hright, hcleared, hheld⟩ =>
        ⟨finding, hright, { hcleared with }, hheld⟩
    · rintro compile ⟨finding, hright, hcleared, hheld⟩
      obtain ⟨hspotless, huses⟩ := hright.in_order_iff.1 horder
      cases h.named.symm.trans hright.named
      obtain rfl := hright.sources.unique hsources
      exact parsed_generates h hright hspotless huses hheld compile hcleared.is_at
  unfold run
  rw [Compiler.phases_pipeline, List.append_nil]
  refine hphases.bind fun _ => ?_
  rintro compile ⟨hstage, hgenerated⟩
  rw [run_advance (by rw [hstage]; rfl)]
  exact ⟨rfl, { hgenerated with }⟩

end Pipeline

/-! ## Compiles -/

/-- A whole compile of a program that is in order gets done, with two generated files. -/
theorem Compiler.run_phases_generate {root : ProgramName} {sources : List Source.SourceFile}
    (h : setup.Generates files root) (hsources : Sources files root sources)
    (horder : Source.InOrder files setup.input setup.options.test)
    {compile : Compile Memory (List ProgramName)} (hfiles : compile.world.files = files)
    (hexact : compile.Exact Memory.ledger setup) (hrefused : compile.world.engine.refused = none)
    (hproduct : compile.product = .none) :
    (runPhases setup compile).product.stage = .done ∧
      (runPhases setup compile).Generated setup files root
        (implementedFunctions (linesOf sources)) := by
  have hdone := ((reset_clears h.engine).bind fun _ => Pipeline.run_generates h hsources horder)
    compile ⟨hfiles, hexact, hrefused, hproduct⟩
  unfold runPhases
  split <;> rename_i hrun <;> rw [hrun] at hdone
  · exact hdone
  · exact hdone.elim

/-- A program that passes analysis under the sample rules is compiled to C, when nothing is refused,
the support files that it takes can be read, the input is none of them, and all files can be written
with the two generated ones at different places. The first generated file lists the functions of the
sources that are global or belong to no specification machine, in the order of their lines. -/
theorem generation_is_complete {compiler : Compiler Memory (List ProgramName)}
    {session : Session Memory (List ProgramName)} {options : Options} {input : Path}
    {root : ProgramName} (hengine : compiler.engine = inMemory Engine.Sample.rules)
    (hparser : compiler.parser = Source.lineParser)
    (hreached : session.Reached compiler Memory.ledger)
    (hrefused : session.world.engine.refused = none)
    (hreadable : ∀ module ∈ [.sourceDomain, .targetDomain, .linkTransform, .targetTransform],
      ∃ loaded, SupportCache.empty.load session.world.files module
        compiler.toolchain.supportDirectory = .ok loaded)
    (hroot : ProgramName.resolve session.world.currentDirectory input = .ok root)
    (hinput : isAnyIn compiler.toolchain.supportDirectory root = false)
    (htest : options.test = false) (hanalyze : options.analyze = false) (hnoC : options.noC = false)
    (hpasses : (compiler.compile { options with analyze := true, emitModel := false } input
      session).1 = true)
    (hwrites : session.world.files.canWrite
      (options.writes (options.outputDirectoryIn session.world.currentDirectory) root) = true)
    (hapart : session.world.files.placeOf
        (Phase.cPath (options.outputDirectoryIn session.world.currentDirectory)
          (options.outputBase root)) ≠
      session.world.files.placeOf
        (Phase.linkerPath (options.outputDirectoryIn session.world.currentDirectory))) :
    ∃ sources, Sources session.world.files root sources ∧
      (compiler.compile options input session).1 = true ∧
      (compiler.compile options input session).2.generated =
        [Phase.cPath (options.outputDirectoryIn session.world.currentDirectory)
          (options.outputBase root),
          Phase.linkerPath (options.outputDirectoryIn session.world.currentDirectory)] ∧
      (compiler.compile options input session).2.world.files.readText
          (Phase.cPath (options.outputDirectoryIn session.world.currentDirectory)
            (options.outputBase root)) =
        .ok ("// functions: " ++
          String.intercalate ", " (implementedFunctions (linesOf sources)) ++ "\n") := by
  have havailable (module : SupportModule)
      (hmodule : module ∈ [.sourceDomain, .targetDomain, .linkTransform, .targetTransform]) :
      module.Available session.world.files compiler.toolchain.supportDirectory :=
    SupportCache.readable_of_load (hreadable module hmodule).choose_spec
  have hanalyzes : (compiler.setup { options with analyze := true, emitModel := false }
      input).Analyzes session.world.files :=
    ⟨hengine, hparser, havailable _ (by decide), fun root' hroot' => by
      cases hroot.symm.trans hroot'
      exact hinput, rfl, rfl⟩
  have horder := (Compiler.succeeds_iff_in_order hanalyzes hreached hrefused).1 hpasses
  obtain ⟨root', sources, hroot', hsources, -⟩ := id horder
  cases hroot.symm.trans hroot'
  have hgenerates : (compiler.setup options input).Generates session.world.files root :=
    ⟨hengine, hparser, havailable _ (by decide),
      fun module hmodule => havailable module (List.mem_cons_of_mem _ hmodule), hroot, hinput,
      htest, hanalyze, hnoC, hwrites, hapart⟩
  have hexact := hreached.exact (hengine ▸ Engine.in_memory_keeps_to Engine.Sample.rules)
  have hfiles : session.begin.world.files = session.world.files := rfl
  obtain ⟨hstage, hgenerated, hlisted⟩ :=
    Compiler.run_phases_generate hgenerates hsources horder hfiles hexact hrefused rfl
  refine ⟨sources, hsources, ?_, hgenerated, hlisted⟩
  rw [Compiler.succeeded_compile, hstage]
  rfl

/-- Two files that include each other are compiled to C. The function of the specification machine
is left out, and the others are listed in the order in which the files are found. -/
theorem generation_is_complete_of_mutual_includes :
    let compiler : Compiler Memory (List ProgramName) :=
      ⟨inMemory Engine.Sample.rules, Source.lineParser, .inDirectory (.ofString "/toolchain")⟩
    let world : World Memory (List ProgramName) :=
      ⟨.empty, [], MutualIncludes.tree, [], [], .still⟩
    let compiled := compiler.compile .default (.ofString "main.p") (.start world)
    compiled.1 = true ∧
      compiled.2.generated = [.ofString "/work/main.c", .ofString "/work/linker.c"] ∧
      compiled.2.world.files.readText (.ofString "/work/main.c") =
        .ok "// functions: step, help\n" := by
  intro compiler world compiled
  have hreadable (module : SupportModule) : ∃ loaded, SupportCache.empty.load MutualIncludes.tree
      module (.ofString "/toolchain") = .ok loaded := by
    cases module <;> exact ⟨_, rfl⟩
  have hpasses : (compiler.compile { Options.default with analyze := true, emitModel := false }
      (.ofString "main.p") (.start world)).1 = true := by
    have hanalyzes : (compiler.setup { Options.default with analyze := true, emitModel := false }
        (.ofString "main.p")).Analyzes (Session.start world).world.files := by
      refine ⟨rfl, rfl, SupportCache.readable_of_load (hreadable .sourceDomain).choose_spec,
        fun root hroot' => ?_, rfl, rfl⟩
      cases MutualIncludes.main_named.symm.trans hroot'
      exact MutualIncludes.main_apart
    exact (Compiler.succeeds_iff_in_order hanalyzes (.start trivial rfl) rfl).2
      ⟨_, _, MutualIncludes.main_named, MutualIncludes.sources, MutualIncludes.declared_once,
        MutualIncludes.variables_declared⟩
  have hwrites : MutualIncludes.tree.canWrite (Options.default.writes
      (Options.default.outputDirectoryIn world.currentDirectory) MutualIncludes.main.file) = true := by
    decide +kernel
  have hapart : MutualIncludes.tree.placeOf (Phase.cPath
        (Options.default.outputDirectoryIn world.currentDirectory)
        (Options.default.outputBase MutualIncludes.main.file)) ≠
      MutualIncludes.tree.placeOf (Phase.linkerPath
        (Options.default.outputDirectoryIn world.currentDirectory)) := by
    decide +kernel
  have hpath : Phase.cPath
      (Options.default.outputDirectoryIn (Session.start world).world.currentDirectory)
      (Options.default.outputBase MutualIncludes.main.file) = .ofString "/work/main.c" := by
    decide +kernel
  have hpath' : Phase.linkerPath (Options.default.outputDirectoryIn
      (Session.start world).world.currentDirectory) = .ofString "/work/linker.c" := by
    decide +kernel
  obtain ⟨sources, hsources, hdone, hgenerated, hlisted⟩ :=
    @generation_is_complete compiler (.start world) .default (.ofString "main.p") _ rfl rfl
      (.start trivial rfl) rfl (fun module _ => hreadable module) MutualIncludes.main_named
      MutualIncludes.main_apart rfl rfl rfl hpasses hwrites hapart
  obtain rfl := hsources.unique MutualIncludes.sources
  have hlist : "// functions: " ++ String.intercalate ", "
      (implementedFunctions (linesOf [MutualIncludes.main, MutualIncludes.counter])) ++ "\n" =
        "// functions: step, help\n" := by
    decide +kernel
  rw [hpath, hpath'] at hgenerated
  rw [hpath, hlist] at hlisted
  exact ⟨hdone, hgenerated, hlisted⟩

end MachineCompiler
