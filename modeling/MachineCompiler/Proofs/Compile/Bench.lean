import MachineCompiler.Compile.Rendering
import MachineCompiler.Proofs.Compile.Evaluation
import MachineCompiler.Proofs.Compile.TwinEngines
import MachineCompiler.Proofs.Engine.Readiness

/-!
# Compiles that go well

When nothing is refused and every file can be written, an action has one outcome. `Bench` is what
there is to know about a compile at a point, and `Makes` says of an action that it succeeds with a
value and what is known afterwards. The calls that the engine has counted, the support programs in
it, the messages and the clock are left open, so a statement about an action does not depend on
what was compiled before.
-/

namespace MachineCompiler

open Engine (Memory Program Rules inMemory)
open SupportModule (isAnyIn)

/-- What is known about a compile: support modules that are marked, the other programs in the
engine, the files, and what was produced. -/
structure Bench where
  support : List SupportModule
  programs : List Program
  files : FileSystem
  product : Product

/-- The file of the support module can be read, and its place names a program. -/
def SupportModule.Available (module : SupportModule) (files : FileSystem) (directory : Path) :
    Prop :=
  ∃ text place, files.readText (module.location directory) = .ok text ∧
    ProgramName.ofPath (module.location directory) = .ok place

variable {π α β : Type} {setup : Setup Memory π} {bench bench' bench'' : Bench} {rules : Rules}
  {program : Program}

/-- The compile is where the bench says, with records that agree with an engine that refuses
nothing. -/
structure Compile.At (setup : Setup Memory π) (bench : Bench) (compile : Compile Memory π) :
    Prop where
  exact : compile.Exact Memory.ledger setup
  plain : compile.world.engine.Plain setup.toolchain.supportDirectory
  own : compile.world.engine.own setup.toolchain.supportDirectory = bench.programs
  tracked : ∀ name, compile.installed.contains name = true →
    isAnyIn setup.toolchain.supportDirectory name = false
  marked : ∀ module ∈ bench.support, module ∈ compile.installed.support
  files : compile.world.files = bench.files
  product : compile.product = bench.product

/-- The output of a transform as a program of its own. -/
def Engine.Model.extracted (model : Engine.Model) (name : ProgramName) : Program :=
  (Program.named name).withModel
    { model with facts := model.facts.map fun fact =>
        { fact with binding := fact.binding.map (Action.outputAliasStart ++ ·) } }

/-- A program with one model and a renderer is rendered as the files that its facts describe. -/
theorem Engine.Memory.render_module_of_held {memory : Memory} {model : Engine.Model}
    {renderer : String} {files : List Engine.VirtualFile}
    (hheld : memory.program? program.name = some (Rendering.withRenderer program renderer))
    (hmodels : program.models = [model]) (herrors : Memory.renderErrors model = [])
    (hfiles : model.facts.filterMap (fun fact => Engine.VirtualFile.ofTerm? fact.term) = files) :
    memory.renderModule program.name model.name = .ok (.success files) := by
  have hmodel : (Rendering.withRenderer program renderer).model? model.name = some model := by
    simp [Rendering.withRenderer, Engine.Program.withSetting, Engine.Program.model?, hmodels]
  obtain ⟨chosen, hchosen⟩ := Option.isSome_iff_exists.1
    (Rendering.setting_with_renderer program renderer)
  simp only [Memory.renderModule, hheld, Option.bind_some, hchosen,
    Memory.model_of_ok_iff.2 ⟨_, hheld, hmodel⟩, herrors, List.isEmpty_nil, if_true, hfiles]

namespace Bench

/-- The bench as an engine without support programs. -/
def memory (bench : Bench) : Memory := ⟨bench.programs, [], none⟩

/-- The program is neither a support program nor on the bench. -/
structure IsNew (setup : Setup Memory π) (bench : Bench) (name : ProgramName) : Prop where
  apart : isAnyIn setup.toolchain.supportDirectory name = false
  free : ∀ other ∈ bench.programs, (other.name == name) = false

theorem IsNew.not_installed {name : ProgramName} (h : bench.IsNew setup name) :
    bench.memory.isInstalled name = false :=
  List.any_eq_false.2 fun other hother => Bool.eq_false_iff.1 (h.free other hother)

/-- The bench with one more program. -/
def adding (bench : Bench) (program : Program) : Bench :=
  { bench with programs := bench.programs ++ [program] }

/-- The bench at another stage. -/
def moved (bench : Bench) (stage : Stage) : Bench :=
  { bench with product := { bench.product with stage } }

/-- The bench after a file was generated. -/
def wrote (bench : Bench) (path : Path) (files : FileSystem) : Bench :=
  { bench with
    files
    product := { bench.product with generated := bench.product.generated ++ [path] } }

/-- The directory that generated files go to. -/
def output (setup : Setup Memory π) (bench : Bench) : Path :=
  setup.options.outputDirectoryIn (Path.through bench.files.currentDirectory)

/-- Where generated files go depends on the current directory only. -/
theorem output_of_current {directory : Path} (houtput : bench.output setup = directory)
    (h : bench'.files.currentDirectory = bench.files.currentDirectory) :
    bench'.output setup = directory := by
  rw [output, h]
  exact houtput

end Bench

namespace Compile.At

variable {compile : Compile Memory π}

/-- The programs on the bench are no support programs. -/
theorem apart (h : compile.At setup bench) :
    ∀ program ∈ bench.programs, isAnyIn setup.toolchain.supportDirectory program.name = false := by
  intro program hprogram
  rw [← h.own] at hprogram
  simpa using (List.mem_filter.1 hprogram).2

/-- The engine answers as one that holds the programs on the bench only. -/
theorem agree (h : compile.At setup bench) :
    Memory.Agree setup.toolchain.supportDirectory compile.world.engine bench.memory := by
  refine ⟨h.plain, ⟨rfl, fun program hprogram hsupport => ?_⟩, ?_⟩
  · rw [h.apart program hprogram] at hsupport
    contradiction
  · rw [h.own]
    exact (List.filter_eq_self.2 fun program hprogram => by rw [h.apart program hprogram]; rfl).symm

theorem agree_recorded (h : compile.At setup bench) (call : Engine.Call) :
    Memory.Agree setup.toolchain.supportDirectory (compile.world.engine.record call) bench.memory :=
  ⟨h.plain.record call, h.agree.plain', h.agree.same⟩

theorem not_installed (h : compile.At setup bench) {name : ProgramName}
    (hnew : bench.IsNew setup name) : compile.world.engine.isInstalled name = false := by
  rw [h.agree.is_installed hnew.apart, hnew.not_installed]

end Compile.At

namespace Action

/-- From the bench, the action succeeds with the value and gets to the other bench. -/
def Makes (setup : Setup Memory π) (bench : Bench) (action : Action Memory π α) (value : α)
    (bench' : Bench) : Prop :=
  ∀ compile : Compile Memory π, compile.At setup bench →
    ∃ after, action.run setup compile = (.ok value, after) ∧ after.At setup bench'

namespace Makes

theorem pure {value : α} : Makes setup bench (pure value) value bench :=
  fun compile hat => ⟨compile, rfl, hat⟩

theorem bind {action : Action Memory π α} {next : α → Action Memory π β} {value : α} {value' : β}
    (h : Makes setup bench action value bench')
    (hnext : Makes setup bench' (next value) value' bench'') :
    Makes setup bench (action >>= next) value' bench'' := by
  intro compile hat
  obtain ⟨middle, hrun, hmiddle⟩ := h compile hat
  rw [run_bind, hrun]
  exact hnext middle hmiddle

/-- What is read is what the compile is given. -/
theorem read_bind {next : Setup Memory π → Action Memory π α} {value : α}
    (h : Makes setup bench (next setup) value bench') :
    Makes setup bench (MonadReader.read >>= next) value bench' :=
  h

/-- An attempt yields the value of an action that succeeds. -/
theorem attempt {action : Action Memory π α} {value : α}
    (h : Makes setup bench action value bench') :
    Makes setup bench (Rendering.attempt action) (.ok value) bench' := by
  intro compile hat
  obtain ⟨after, hrun, hafter⟩ := h compile hat
  exact ⟨after, by rw [run_attempt, hrun], hafter⟩

theorem triple {action : Action Memory π α} {value : α} {E : Failure → Compile Memory π → Prop}
    (h : Makes setup bench action value bench') :
    Triple setup (Compile.At setup bench) action (fun _ => Compile.At setup bench') E := by
  intro compile hat
  obtain ⟨after, hrun, hafter⟩ := h compile hat
  rw [hrun]
  exact hafter

/-! ## Looking things up -/

theorem product : Makes setup bench Action.product bench.product bench :=
  fun compile hat => ⟨compile, by rw [run_product, hat.product], hat⟩

theorem root {root : ProgramName} (hroot : bench.product.root = some root) :
    Makes setup bench Action.root root bench :=
  fun compile hat => ⟨compile, by rw [run_root, hat.product, hroot], hat⟩

theorem root_reference {root : ProgramName} (hroot : bench.product.root = some root) :
    Makes setup bench rootReference (.within bench.product.rootModule root.shown) bench :=
  .bind (.root hroot) (.bind .product .pure)

theorem support_reference {module : SupportModule} :
    Makes setup bench (supportReference module)
      (module.reference setup.toolchain.supportDirectory) bench :=
  fun compile hat => ⟨compile, rfl, hat⟩

theorem output_directory {directory : Path} (houtput : bench.output setup = directory) :
    Makes setup bench outputDirectory directory bench := by
  intro compile hat
  refine ⟨compile, ?_, hat⟩
  rw [← houtput, Bench.output, ← hat.files]
  rfl

theorem output_base {root : ProgramName} (hroot : bench.product.root = some root) :
    Makes setup bench outputBase (setup.options.outputBase root) bench :=
  .read_bind (.bind (.root hroot) .pure)

/-! ## Changes outside of the engine -/

/-- Nothing happens when there are no flags. -/
theorem add_no_flags : Makes setup bench (addFlags []) () bench :=
  fun _ hat => ⟨_, run_add_flags [], { hat with }⟩

theorem advance {next : Stage} (hleads : bench.product.stage.leadsTo next = true) :
    Makes setup bench (Action.advance next) () (bench.moved next) := by
  intro compile hat
  refine ⟨_, run_advance (by rw [hat.product]; exact hleads), { hat with product := ?_ }⟩
  show { compile.product with stage := next } = { bench.product with stage := next }
  rw [hat.product]

theorem save {path : Path} {text : String} {files : FileSystem}
    (hsave : bench.files.save path text = (none, files)) :
    Makes setup bench (Action.save path text) () { bench with files } := by
  intro compile hat
  rw [run_save, hat.files, hsave]
  exact ⟨_, rfl, { hat with files := rfl }⟩

/-- A file is generated. -/
theorem write_file {directory : Path} {appendix : String} {file : Engine.VirtualFile}
    {files : FileSystem}
    (hsave : bench.files.save (directory.join (Path.ofString file.name)) (file.contents ++ appendix) =
      (none, files)) :
    Makes setup bench (Rendering.writeFile directory appendix file) true
      (bench.wrote (directory.join (Path.ofString file.name)) files) := by
  intro compile hat
  rw [← hat.files] at hsave
  refine ⟨{ compile with
      world := { compile.world.write .info ("Writing " ++ file.name ++ " ...") with files }
      product := { compile.product with
        generated := compile.product.generated ++ [directory.join (Path.ofString file.name)] } },
    ?_, { hat with files := rfl, product := ?_ }⟩
  · simp only [Rendering.writeFile, Action.progress, run_bind, run_in_world, World.save,
      World.write, hsave]
    rfl
  · rw [Bench.wrote, ← hat.product]

theorem write_one_file {directory : Path} {appendix : String} {file : Engine.VirtualFile}
    {files : FileSystem}
    (hsave : bench.files.save (directory.join (Path.ofString file.name)) (file.contents ++ appendix) =
      (none, files)) :
    Makes setup bench (Rendering.writeFiles directory appendix [file]) true
      (bench.wrote (directory.join (Path.ofString file.name)) files) :=
  .bind (.write_file hsave) (.bind .pure .pure)

/-! ## Support modules -/

/-- What is known of the marked support modules may be forgotten. -/
theorem weaken {action : Action Memory π α} {value : α} {support : List SupportModule}
    (h : Makes setup bench action value bench')
    (hsupport : ∀ module ∈ support, module ∈ bench'.support) :
    Makes setup bench action value { bench' with support } := by
  intro compile hat
  obtain ⟨after, hrun, hafter⟩ := h compile hat
  exact ⟨after, hrun, { hafter with
    marked := fun module hmodule => hafter.marked module (hsupport module hmodule) }⟩

/-- Support modules that are available are installed, whether they were marked before or not. -/
theorem ensure_support (hengine : setup.engine = inMemory rules) {modules : List SupportModule}
    (havailable : ∀ module ∈ modules,
      module.Available bench.files setup.toolchain.supportDirectory) :
    Makes setup bench (ensureSupport modules) ()
      { bench with support := modules ++ bench.support } := by
  induction modules generalizing bench with
  | nil => exact .pure
  | cons module rest ih =>
    obtain ⟨⟨text, place, hread, hplace⟩, hrest⟩ := List.forall_mem_cons.1 havailable
    intro compile hat
    have hsupplied := run_ensure_support_cons hengine rest hat.exact hat.plain hat.tracked
      (hat.files ▸ hread)
    rw [hplace] at hsupplied
    obtain ⟨engine, cache, installed, hsupplied, hrun⟩ := hsupplied
    have hnext : Compile.At setup { bench with support := module :: bench.support }
        { compile with world := { compile.world with engine }, cache, installed } :=
      { hat with
        exact := hsupplied.exact
        plain := hsupplied.plain
        own := hsupplied.own.trans hat.own
        tracked := fun name hcontains => hat.tracked name (by
          rw [Installed.contains, ← hsupplied.programs]
          exact hcontains)
        marked := List.forall_mem_cons.2
          ⟨hsupplied.marked, fun other hother => hsupplied.kept other (hat.marked other hother)⟩ }
    have hmade : Makes setup { bench with support := module :: bench.support }
        (ensureSupport rest) () { bench with support := rest ++ module :: bench.support } :=
      ih hrest
    rw [hrun]
    refine hmade.weaken (fun other hother => ?_) _ hnext
    simpa [or_left_comm] using hother

/-! ## Installing and removing -/

/-- A new program is installed. -/
theorem install_temporary (hengine : setup.engine = inMemory rules)
    (hnew : bench.IsNew setup program.name) :
    Makes setup bench (installTemporary program) () (bench.adding program) := by
  intro compile hat
  have hfree := hat.not_installed hnew
  refine ⟨_, run_install_new hengine hat.plain hfree, {
    exact := hat.exact.install_tracked trivial hfree rfl
    plain := (hat.plain.record _).append fun hsupport => ?_
    own := (Memory.own_append hnew.apart _).trans (congrArg (· ++ [program]) hat.own)
    tracked := fun name hcontains => ?_
    marked := fun module hmodule => ?_
    files := hat.files
    product := hat.product }⟩
  · rw [hnew.apart] at hsupport
    contradiction
  · obtain hold | hprogram := Installed.contains_track.1 hcontains
    · exact hat.tracked name hold
    · exact (SupportModule.is_any_in_congr hprogram).symm.trans hnew.apart
  · show module ∈ (compile.installed.track program.name).support
    rw [Installed.support_track]
    exact hat.marked module hmodule

/-- A program that was new is removed. -/
theorem uninstall (hengine : setup.engine = inMemory rules)
    (hnew : bench.IsNew setup program.name) :
    Makes setup (bench.adding program) (Action.uninstall [program.name]) () bench := by
  intro compile hat
  have hheld : ∀ name ∈ [program.name], compile.world.engine.isInstalled name = true := by
    refine List.forall_mem_singleton.2 ?_
    rw [hat.agree.is_installed hnew.apart]
    exact List.any_eq_true.2 ⟨program, List.mem_append_right _ List.mem_cons_self, BEq.rfl⟩
  have hkept : (bench.programs ++ [program]).filter
      (fun other => !([program.name].any (other.name == ·))) = bench.programs := by
    rw [List.filter_append, List.filter_cons_of_neg (by simp), List.filter_nil, List.append_nil]
    refine List.filter_eq_self.2 fun other hother => ?_
    rw [List.any_cons, hnew.free other hother]
    rfl
  rw [run_uninstall, hengine, Memory.uninstall_held hat.plain.refused hheld]
  refine ⟨_, rfl, {
    exact := hat.exact.uninstall (List.forall_mem_singleton.2
      (SupportModule.not_marks_of_not_any hnew.apart)) trivial rfl
    plain := ⟨hat.plain.refused, fun other hother => ?_⟩
    own := ?_
    tracked := fun name hcontains => ?_
    marked := fun module hmodule => ?_
    files := hat.files
    product := hat.product }⟩
  · exact hat.plain.blank other (List.mem_filter.1 hother).1
  · show List.filter _ (List.filter _ _) = _
    rw [List.filter_comm, show List.filter _ compile.world.engine.installed = _ from hat.own]
    exact hkept
  · exact hat.tracked name (Installed.contains_untrack_all.1 hcontains).1
  · show module ∈ (compile.installed.untrackAll [program.name]).support
    rw [Installed.support_untrack_all]
    exact hat.marked module hmodule

/-- A new program is installed for as long as something is done with it. -/
theorem bracket (hengine : setup.engine = inMemory rules) {body : Action Memory π α}
    {next : Except Failure α → Action Memory π β} {value : α} {value' : β}
    (hnew : bench.IsNew setup program.name) (hnew' : bench'.IsNew setup program.name)
    (hbody : Makes setup (bench.adding program) body value (bench'.adding program))
    (hnext : Makes setup bench' (next (.ok value)) value' bench'') :
    Makes setup bench
      (do
        installTemporary program
        let outcome ← Rendering.attempt body
        Action.uninstall [program.name]
        next outcome)
      value' bench'' :=
  .bind (install_temporary hengine hnew) (.bind hbody.attempt (.bind (uninstall hengine hnew') hnext))

/-! ## Transforms and renderers -/

/-- A question is answered, and nothing but the question is recorded. -/
theorem ask {verb : Engine.Verb} {call : Engine.Call}
    {operation : Memory → Except Engine.Error α × Memory} (answer : Memory → Except Engine.Error α)
    {value : α}
    (hoperation : operation = Memory.start verb call fun memory => (answer memory, memory))
    (hanswer : ∀ compile : Compile Memory π, compile.At setup bench →
      answer (compile.world.engine.record call) = .ok value) :
    Makes setup bench (Action.ask verb operation) value bench := by
  intro compile hat
  have hrun : operation compile.world.engine = (.ok value, compile.world.engine.record call) := by
    simp only [hoperation, Memory.start, hat.plain.refused, reduceCtorEq, if_false,
      hanswer compile hat]
  rw [run_ask, hrun]
  exact ⟨_, rfl, { hat with
    exact := hat.exact.same ⟨trivial, rfl⟩
    plain := hat.plain.record call }⟩

/-- A transform of a marked support module makes what it makes of the bench. -/
theorem apply (hengine : setup.engine = inMemory rules) {module : SupportModule}
    {arguments : List Engine.Argument} {outputs : List String} {result : Engine.ApplyResult}
    (hmarked : module ∈ bench.support)
    (hstep : bench.memory.runStep rules ⟨.named module.moduleName, arguments, outputs⟩ =
      .ok result)
    (hflags : result.flags = []) :
    Makes setup bench
      (Action.apply ⟨module.reference setup.toolchain.supportDirectory, arguments, outputs⟩) result
      bench := by
  have hanswer (compile : Compile Memory π) (hat : compile.At setup bench) :
      (compile.world.engine.record (.apply module.moduleName)).runStep rules
        ⟨module.reference setup.toolchain.supportDirectory, arguments, outputs⟩ = .ok result := by
    have hexact : Exact Memory.ledger setup.toolchain.supportDirectory
        (compile.world.engine.record (.apply module.moduleName)) compile.cache compile.installed :=
      hat.exact.same ⟨trivial, rfl⟩
    have hpresent := transform_present hexact (hat.marked module hmarked) arguments outputs
    rw [← hstep, Memory.runStep, Memory.runStep, hpresent, (hat.agree_recorded _).read_arguments]
    rfl
  have hsame : { result with flags := [] } = result := by rw [← hflags]
  have hend : Makes setup bench
      (do addFlags result.flags; Pure.pure { result with flags := [] }) result bench := by
    rw [hflags, hsame]
    exact .bind add_no_flags .pure
  refine .read_bind (.bind (ask (·.runStep rules _) ?_ hanswer) hend)
  rw [hengine]
  rfl

/-- An output is taken out of a result as a program of its own. -/
theorem extract {result : Engine.ApplyResult} {module : String} {model : Engine.Model}
    {name : ProgramName} {directory : Path} (houtput : bench.output setup = directory)
    (hname : ProgramName.ofPath (directory.join (Path.ofString (module ++ ".model"))) = .ok name)
    (hmodel : result.outputs.lookup module = some model) :
    Makes setup bench (Action.extract result module) (model.extracted name) bench := by
  have hprogram : result.extract? module name outputAliasStart = some (model.extracted name) := by
    rw [Engine.ApplyResult.extract?, hmodel]
    rfl
  have hnamed : Makes setup bench (outputProgram (module ++ ".model")) name bench := by
    refine .bind (.output_directory houtput) ?_
    rw [hname]
    exact .pure
  refine .bind hnamed ?_
  rw [hprogram]
  exact .pure

/-- A program with one model, whose facts describe files, is rendered as these files. -/
theorem render (hengine : setup.engine = inMemory rules) {model : Engine.Model}
    {renderer appendix : String} {rendered : List Engine.VirtualFile} {directory : Path}
    (houtput : bench.output setup = directory) (hnew : bench.IsNew setup program.name)
    (hmodels : program.models = [model]) (herrors : Memory.renderErrors model = [])
    (hrendered : model.facts.filterMap (fun fact => Engine.VirtualFile.ofTerm? fact.term) = rendered)
    (hwritten : Makes setup bench (Rendering.writeFiles directory appendix rendered) true bench') :
    Makes setup bench (Rendering.render program renderer appendix) true bench' := by
  have hanswer (compile : Compile Memory π)
      (hat : compile.At setup (bench.adding (Rendering.withRenderer program renderer))) :
      (compile.world.engine.record (.render program.name model.name)).renderModule program.name
        model.name = .ok (.success rendered) := by
    have hadded : (bench.adding (Rendering.withRenderer program renderer)).memory.installed =
        bench.memory.installed ++ [Rendering.withRenderer program renderer] := rfl
    have hfound : (bench.adding (Rendering.withRenderer program renderer)).memory.program?
        program.name = some (Rendering.withRenderer program renderer) :=
      Memory.program_of_append hadded hnew.not_installed
    rw [(hat.agree_recorded _).render_module hnew.apart]
    exact Memory.render_module_of_held hfound hmodels herrors hrendered
  have hwrite : Makes setup bench
      (do
        let rendered ← ofExcept id (.ok (Engine.RenderResult.success rendered))
        addFlags rendered.flags
        if rendered.succeeded then Rendering.writeFiles (← outputDirectory) appendix rendered.files
        else return false) true bench' :=
    .bind .pure (.bind add_no_flags (.bind (output_directory houtput) hwritten))
  unfold Rendering.render
  rw [hmodels]
  refine .read_bind (bracket hengine hnew hnew (ask (·.renderModule _ _) ?_ hanswer) hwrite)
  rw [hengine]
  rfl

end Makes

end Action

end MachineCompiler
