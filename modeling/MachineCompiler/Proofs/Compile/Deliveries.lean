import MachineCompiler.Proofs.Compile.Leftovers
import MachineCompiler.Proofs.Compile.Lowering
import MachineCompiler.Proofs.Compile.Traces
import MachineCompiler.Proofs.FileSystem.Saving
import MachineCompiler.Proofs.Source.Search

/-!
# What a compile delivers

Under the sample transforms it is known which files a compile renders. As long as it goes well,
every one of them is written when it was rendered, and nothing is written besides them but the
files for models.
-/

namespace MachineCompiler

open Action
open Engine (Exchange Memory Model Program Rules VirtualFile inMemory logged)
open FileSystem (Write)
open Compile (AboutFiles)

/-! ## Deliveries -/

/-- The files that an exchange has brought, each with the module that was rendered. -/
def Engine.Exchange.brought {σ : Type} (exchange : Exchange σ) : List (String × VirtualFile) :=
  match exchange.request with
  | .render _ module => exchange.answer.files.map (module, ·)
  | _ => []

/-- The exchanges since `start` have brought some files. -/
def Compile.Brings {π : Type} (start : List (Exchange Memory))
    (brought : List (String × VirtualFile))
    (compile : Compile (Memory × List (Exchange Memory)) π) : Prop :=
  ∃ exchanges, compile.world.engine.2 = start ++ exchanges ∧
    exchanges.flatMap Exchange.brought = brought

/-- Nothing was brought since `start`, and nothing was written to the files before. -/
def Compile.Fresh {π : Type} (start : List (Exchange Memory)) (before : FileSystem)
    (compile : Compile (Memory × List (Exchange Memory)) π) : Prop :=
  compile.Brings start [] ∧ compile.world.files = before

/-- What is known of a compile once its root file is known: the files that the exchanges since
`start` have brought, and what was written to the files before, each without an error. The source
files were read before. -/
structure Compile.Delivered {π : Type} (start : List (Exchange Memory)) (before : FileSystem)
    (root : ProgramName) (brought : List (String × VirtualFile))
    (writes : List Write) (compile : Compile (Memory × List (Exchange Memory)) π) : Prop where
  brings : compile.Brings start brought
  files : before.saveAll writes = (true, compile.world.files)
  named : compile.product.root = some root
  rootModule : compile.product.rootModule = Phase.rootModuleOf root
  readable : ∀ source ∈ compile.product.files, ∃ text, before.readText source.path = .ok text

open Compile (Brings Delivered Fresh)

variable {π α β : Type} {rules : Rules} {setup : Setup (Memory × List (Exchange Memory)) π}
  {start : List (Exchange Memory)} {before : FileSystem} {root : ProgramName}
  {brought : List (String × VirtualFile)} {writes : List Write}
  {compile : Compile (Memory × List (Exchange Memory)) π} {path : Path} {text : String}
  {program : Program} {file : VirtualFile}

namespace Compile

/-- What one more exchange brings is on record. -/
theorem Brings.exchanged (h : compile.Brings start brought) (request : Engine.Request)
    (answer : Engine.Answer) (next : Memory) :
    (compile.exchanged request answer next).Brings start
      (brought ++ Exchange.brought ⟨compile.world.engine.1, request, answer⟩) := by
  obtain ⟨exchanges, hlog, rfl⟩ := h
  refine ⟨exchanges ++ [⟨compile.world.engine.1, request, answer⟩], ?_, ?_⟩
  · show compile.world.engine.2 ++ _ = _
    rw [hlog, List.append_assoc]
  · rw [List.flatMap_append, List.flatMap_singleton]

theorem Brings.about_files : AboutFiles (Brings start brought :
    Compile (Memory × List (Exchange Memory)) π → Prop) where
  same hsame h := by
    simp only [traces, Prod.mk.injEq] at hsame
    rwa [Brings, ← hsame.1]
  exchanged {compile} request answer next hnone h := by
    have hbrought : Exchange.brought ⟨compile.world.engine.1, request, answer⟩ = [] := by
      unfold Exchange.brought
      split <;> simp [hnone]
    have hexchanged := h.exchanged request answer next
    rwa [hbrought, List.append_nil] at hexchanged

theorem Fresh.about_files : AboutFiles (Fresh start before :
    Compile (Memory × List (Exchange Memory)) π → Prop) where
  same hsame h :=
    ⟨Brings.about_files.same hsame h.1, (congrArg (·.2.2.2.2) hsame).symm.trans h.2⟩
  exchanged request _ next hnone h :=
    ⟨Brings.about_files.exchanged request next hnone h.1, h.2⟩

end Compile

namespace Compile.Delivered

theorem about_files : AboutFiles (Delivered start before root brought writes :
    Compile (Memory × List (Exchange Memory)) π → Prop) where
  same hsame h := by
    have hbrings := Brings.about_files.same hsame h.brings
    simp only [traces, Prod.mk.injEq] at hsame
    obtain ⟨-, hroot, hmodule, hsources, hfiles⟩ := hsame
    exact ⟨hbrings, hfiles ▸ h.files, hroot ▸ h.named, hmodule ▸ h.rootModule,
      hsources ▸ h.readable⟩
  exchanged request _ next hnone h :=
    { h with brings := Brings.about_files.exchanged request next hnone h.brings }

/-- One more file was written. -/
theorem saved (h : compile.Delivered start before root brought writes) {files : FileSystem}
    (hsave : compile.world.files.save path text = (none, files)) :
    Delivered start before root brought (writes ++ [⟨path, text⟩])
      { compile with world := { compile.world with files } } := by
  refine { h with files := ?_ }
  rw [FileSystem.save_all_append, h.files]
  simp [FileSystem.saveAll, hsave]

/-- The current directory stays the same. -/
theorem current (h : compile.Delivered start before root brought writes) :
    compile.world.currentDirectory = Path.through before.currentDirectory := by
  have hgrows := before.grows_save_all writes
  rw [h.files] at hgrows
  rw [World.currentDirectory, hgrows.current]

end Compile.Delivered

namespace Action

/-! ## Going well -/

variable {σ : Type} {P : Compile σ π → Prop} {Q : α → Compile σ π → Prop}

/-- Something becomes of every action. -/
theorem Triple.any {setup : Setup σ π} (action : Action σ π α) :
    Triple setup P action (fun _ _ => True) (fun _ _ => True) := by
  intro compile _
  rcases action.run setup compile with ⟨_ | _, _⟩ <;> trivial

/-- What an action keeps is kept when the action goes well. -/
theorem Keeps.ensures {setup : Setup σ π} {action : Action σ π α} (h : Keeps setup P action) :
    Triple setup P action (fun _ => P) (fun _ _ => True) :=
  h.triple.mono (fun _ => id) (fun _ _ => id) fun _ _ _ => trivial

/-- What an action was to bring about holds, if the action says so. -/
def Tells (P : Compile σ π → Prop) (told : Bool) (compile : Compile σ π) : Prop :=
  told = true → P compile

theorem about_files_tells {P : Compile (σ × List (Exchange σ)) π → Prop} (hP : AboutFiles P)
    (told : Bool) : AboutFiles (Tells P told) where
  same hsame h htold := hP.same hsame (h htold)
  exchanged request _ next hnone h htold := hP.exchanged request next hnone (h htold)

/-! ## Writing -/

/-- A file was written, or the compile fails. -/
theorem save_delivers :
    Triple setup (Delivered start before root brought writes) (save path text)
      (fun _ => Delivered start before root brought (writes ++ [⟨path, text⟩]))
      (fun _ _ => True) := by
  intro compile hdelivered
  rw [run_save]
  rcases hsave : compile.world.files.save path text with ⟨_ | reason, files⟩
  · exact hdelivered.saved hsave
  · trivial

/-- An attempt to write a file has written it, unless there was an error. -/
theorem in_world_save_delivers :
    Triple setup (Delivered start before root brought writes)
      (inWorld (World.save · path text))
      (fun error compile => error = none →
        compile.Delivered start before root brought (writes ++ [⟨path, text⟩]))
      (fun _ _ => True) := by
  intro compile hdelivered
  rw [run_in_world, World.save]
  rcases hsave : compile.world.files.save path text with ⟨_ | reason, files⟩
  · exact fun _ => hdelivered.saved hsave
  · intro herror
    cases herror

/-- A program that was installed for a while is held under its name. -/
theorem install_temporary_delivers (hengine : setup.engine = logged (inMemory rules))
    (program : Program) :
    Triple setup (Delivered start before root brought writes) (installTemporary program)
      (fun _ compile => compile.Delivered start before root brought writes ∧
        compile.world.engine.1.program? program.name = some program)
      (fun _ _ => True) := by
  refine Triple.bind (install_log_triple hengine (Engine.in_memory_keeps_to rules)
    program (fun _ _ => trivial) ?_ fun _ _ _ _ _ _ _ => trivial)
    fun _ => Keeps.ensures fun compile hheld => ?_
  · exact fun compile outcome next hdelivered _ _ hnew hadded =>
      ⟨Delivered.about_files.exchanged _ next rfl hdelivered,
        Memory.program_of_append hadded hnew⟩
  · exact ⟨{ hheld.1 with }, hheld.2⟩

-- The rules say what becomes of an action. Evaluating it would take much longer.
attribute [local irreducible] Action.run

/-- The file was written, if that is said. -/
theorem write_one_file_delivers {directory : Path} {appendix : String} :
    Triple setup (Delivered start before root brought writes)
      (Rendering.writeFiles directory appendix [file])
      (Tells (Delivered start before root brought
        (writes ++ [⟨directory.join (.ofString file.name), file.contents ++ appendix⟩])))
      (fun _ _ => True) := by
  have hone : (Rendering.writeFiles directory appendix [file] :
      Action (Memory × List (Exchange Memory)) π Bool) =
        Rendering.writeFile directory appendix file := by
    simp only [Rendering.writeFiles, pure_bind, Bool.and_true, bind_pure]
  rw [hone]
  refine (Delivered.about_files.passive Passive.progress).ensures.bind fun _ =>
    in_world_save_delivers.bind fun error => ?_
  cases error with
  | some reason => exact (Triple.any _).bind fun _ => .pure fun _ _ hwritten => nomatch hwritten
  | none =>
    refine Triple.mono (Triple.bind (Keeps.ensures (Delivered.about_files.passive
      (.modify_product fun _ => rfl))) fun _ => .pure fun _ hdelivered _ => hdelivered)
      (fun _ hdelivered => hdelivered rfl) (fun _ _ => id) fun _ _ => id

/-! ## Rendering -/

section

variable (hengine : setup.engine = logged (inMemory rules))
include hengine

/-- A program whose one model describes one file is rendered as the file. -/
theorem ask_render_delivers {model : Model} {renderer : String} (hmodels : program.models = [model])
    (herrors : Memory.renderErrors model = [])
    (hfile : model.facts.filterMap (fun fact => VirtualFile.ofTerm? fact.term) = [file]) :
    Triple setup
      (fun compile => compile.Delivered start before root brought writes ∧
        compile.world.engine.1.program? program.name =
          some (Rendering.withRenderer program renderer))
      (ask .render (setup.engine.render program.name model.name))
      (fun rendered compile =>
        compile.Delivered start before root (brought ++ [(model.name, file)]) writes ∧
          rendered = .success [file])
      (fun _ _ => True) := by
  rw [hengine]
  refine Triple.ask_log (fun compile rendered next ⟨hdelivered, hheld⟩ hrender => ?_)
    fun _ _ _ _ _ => trivial
  have hrendered : rendered = .success [file] := by
    simp only [inMemory, Memory.start] at hrender
    split at hrender
    · cases hrender
    · have hheld' : (compile.world.engine.1.record (.render program.name model.name)).program?
          program.name = some (Rendering.withRenderer program renderer) := hheld
      rw [Memory.render_module_of_held hheld' hmodels herrors hfile] at hrender
      cases hrender
      rfl
  subst hrendered
  have hbrings := hdelivered.brings.exchanged (.render program.name model.name)
    (.rendered (.success [file])) next
  exact ⟨{ hdelivered with brings := hbrings }, rfl⟩

/-- A program whose one model describes one file is rendered, and the file is written. -/
theorem render_delivers {model : Model} {renderer appendix : String} {directory : Path}
    (hmodels : program.models = [model]) (herrors : Memory.renderErrors model = [])
    (hfile : model.facts.filterMap (fun fact => VirtualFile.ofTerm? fact.term) = [file])
    (hdirectory : setup.options.outputDirectoryIn (Path.through before.currentDirectory) =
      directory) :
    Triple setup (Delivered start before root brought writes)
      (Rendering.render program renderer appendix)
      (Tells (Delivered start before root (brought ++ [(model.name, file)])
        (writes ++ [⟨directory.join (.ofString file.name), file.contents ++ appendix⟩])))
      (fun _ _ => True) := by
  unfold Rendering.render
  rw [hmodels]
  refine .read_bind ((install_temporary_delivers hengine _).bind fun _ =>
    (ask_render_delivers hengine hmodels herrors hfile).attempt_bind (fun rendered => ?_)
      fun failure => (Triple.any _).bind fun _ => .fail fun _ _ => trivial)
  refine .given fun hrendered => ?_
  refine (Delivered.about_files.uninstall hengine _).ensures.bind fun _ => ?_
  refine (Triple.of_except fun _ _ _ _ => trivial).bind fun value => .given fun hvalue => ?_
  obtain rfl : .success [file] = value := hrendered.symm.trans (Except.ok.inj hvalue)
  refine (Delivered.about_files.passive Passive.add_flags).ensures.bind fun _ => ?_
  refine (Triple.output_directory fun _ hdelivered => hdelivered.current).bind fun found =>
    .given fun hfound => ?_
  obtain rfl : found = directory := hfound.trans hdirectory
  exact write_one_file_delivers

/-- Without an appendix the contents alone are written. -/
theorem render_alone_delivers {model : Model} {renderer : String} {directory : Path}
    (hmodels : program.models = [model]) (herrors : Memory.renderErrors model = [])
    (hfile : model.facts.filterMap (fun fact => VirtualFile.ofTerm? fact.term) = [file])
    (hdirectory : setup.options.outputDirectoryIn (Path.through before.currentDirectory) =
      directory) :
    Triple setup (Delivered start before root brought writes)
      (Rendering.render program renderer "")
      (Tells (Delivered start before root (brought ++ [(model.name, file)])
        (writes ++ [⟨directory.join (.ofString file.name), file.contents⟩])))
      (fun _ _ => True) := by
  have htext : file.contents = file.contents ++ "" := String.append_empty.symm
  rw [htext]
  exact render_delivers hengine hmodels herrors hfile hdirectory

/-! ## Transforms -/

/-- The outputs of a step are those that it has in some state of the engine. -/
theorem apply_makes {P : Compile (Memory × List (Exchange Memory)) π → Prop} (hP : AboutFiles P)
    (step : Engine.Step) :
    Triple setup P (apply step)
      (fun result compile => P compile ∧ ∃ memory made,
        Memory.runStep rules memory step = .ok made ∧ result.outputs = made.outputs)
      (fun _ _ => True) := by
  have hask : Triple setup P (ask .apply ((logged (inMemory rules)).apply step))
      (fun made compile => P compile ∧ ∃ memory, Memory.runStep rules memory step = .ok made)
      (fun _ _ => True) := by
    refine Triple.ask_log (fun compile made next hcompile hmade => ?_) fun _ _ _ _ _ => trivial
    refine ⟨hP.exchanged _ next rfl hcompile,
      compile.world.engine.1.record (.apply step.transform.name), ?_⟩
    simp only [inMemory, Memory.start] at hmade
    split at hmade
    · cases hmade
    · exact congrArg Prod.fst hmade
  refine .read_bind ?_
  rw [hengine]
  refine hask.bind fun made => .given fun hsome => ?_
  obtain ⟨memory, hmade⟩ := hsome
  exact (hP.passive Passive.add_flags).ensures.bind fun _ =>
    .pure fun _ hcompile => ⟨hcompile, memory, made, hmade, rfl⟩

end

/-- An output that was made is a program of its own. -/
theorem extract_makes {P : Compile (Memory × List (Exchange Memory)) π → Prop} (hP : AboutFiles P)
    {result : Engine.ApplyResult} {module : String} {model : Model}
    (hmodel : result.outputs.lookup module = some model) :
    Triple setup P (extract result module)
      (fun program compile => P compile ∧ ∃ name, program = model.extracted name)
      (fun _ _ => True) := by
  refine (hP.passive .output_program).ensures.bind fun name => ?_
  have hprogram : result.extract? module name outputAliasStart = some (model.extracted name) := by
    rw [Engine.ApplyResult.extract?, hmodel]
    rfl
  rw [hprogram]
  exact .pure fun _ hcompile => ⟨hcompile, name, rfl⟩

end Action

/-! ## Phases -/

namespace Phase

-- The rules say what becomes of an action. Evaluating it would take much longer.
attribute [local irreducible] Action.run

theorem product_delivers :
    Triple setup (Delivered start before root brought writes) product
      (fun product compile => compile.Delivered start before root brought writes ∧
        product.rootModule = rootModuleOf root)
      (fun _ _ => True) :=
  .product _ fun _ hdelivered => hdelivered.rootModule

theorem output_base_delivers :
    Triple setup (Delivered start before root brought writes) outputBase
      (fun base compile => compile.Delivered start before root brought writes ∧
        base = setup.options.outputBase root)
      (fun _ _ => True) :=
  .read_bind ((Triple.root fun _ hdelivered => hdelivered.named).bind fun name =>
    .given fun hname => .pure fun _ hdelivered => ⟨hdelivered, by rw [hname]⟩)

/-- The source files are those that were read. -/
theorem run_parse_delivers :
    Triple setup (Fresh start before) runParse
      (fun _ compile => ∃ root, compile.Delivered start before root [] [])
      (fun _ _ => True) := by
  have hfailed {Q : Unit → Compile (Memory × List (Exchange Memory)) π → Prop} (flags : List Flag) :
      Triple setup (fun _ => True) (parseFailed flags) Q (fun _ _ => True) :=
    (Triple.any _).bind fun _ => .fail fun _ _ => trivial
  refine .read_bind (.get_bind fun compile hcompile => ?_)
  dsimp only
  split
  · exact fun second _ => hfailed _ second trivial
  rename_i root _
  rintro _ rfl
  rw [run_bind, run_resolve_files]
  rcases hresolve : Source.resolve _ _ _ _ with ⟨flags | resolution, parser⟩ <;> dsimp only
  · exact hfailed flags _ trivial
  · obtain ⟨hbrings, rfl⟩ := hcompile
    rw [run_bind, run_add_flags]
    dsimp only
    rw [run_bind, run_modify_product]
    refine ((Delivered.about_files.passive Passive.advance).ensures _ ?_).mono
      (fun _ _ hdelivered => ⟨root, hdelivered⟩) fun _ _ => id
    exact ⟨hbrings, rfl, rfl, rfl, Source.readable_of_resolve (congrArg Prod.fst hresolve)⟩

section

variable (hengine : setup.engine = logged (inMemory Engine.Sample.rules))
  {directory : Path}
  (hdirectory : setup.options.outputDirectoryIn (Path.through before.currentDirectory) = directory)
include hengine hdirectory

/-- The model of the parsed program is written on demand. -/
theorem run_install_delivers :
    Triple setup (Delivered start before root brought writes) runInstall
      (fun _ compile => ∃ text, compile.Delivered start before root brought
        (writes ++ if setup.options.emitModel then
          [⟨modelPath directory (rootModuleOf root), text⟩] else []))
      (fun _ _ => True) := by
  have hinstalled {writes : List Write} (program : Program) :
      Triple setup (Delivered start before root brought writes)
        (do installProduct program; advance .modelInstalled)
        (fun _ => Delivered start before root brought writes) (fun _ _ => True) :=
    ((Delivered.about_files.install_temporary hengine _).bind fun _ =>
      Delivered.about_files.passive Passive.advance).ensures
  refine .read_bind ((Delivered.about_files.ensure_support hengine _).ensures.bind fun _ => ?_)
  refine (Delivered.about_files.passive .root).ensures.bind fun name => ?_
  refine (Delivered.about_files.passive .support_reference).ensures.bind fun domain => ?_
  refine (Delivered.about_files.passive parsed_program_passive).ensures.bind fun program => ?_
  refine product_delivers.bind fun product => .given fun hmodule => ?_
  rw [hmodule]
  dsimp only
  split
  · refine (Triple.output_directory fun _ hdelivered => hdelivered.current).bind fun found =>
      .given fun hfound => ?_
    obtain rfl : found = directory := hfound.trans hdirectory
    exact save_delivers.bind fun _ => (hinstalled _).mono (fun _ => id)
      (fun _ _ hdelivered => ⟨_, hdelivered⟩) fun _ _ => id
  · refine (hinstalled _).mono (fun _ => id) (fun _ _ hdelivered => ⟨"", ?_⟩) fun _ _ => id
    rwa [List.append_nil]

/-- The file of the lowered link descriptor is rendered and written. -/
theorem lower_link_delivers (descriptor : Engine.ModuleRef) :
    Triple setup (Delivered start before root brought writes) (lowerLink descriptor)
      (Tells fun compile => ∃ units, compile.Delivered start before root
        (brought ++ [(rootModuleOf root ++ "_CLinkModel", ⟨"linker.c", units⟩)])
        (writes ++ [⟨linkerPath directory, units⟩]))
      (fun _ _ => True) := by
  refine product_delivers.bind fun product => .given fun hmodule => ?_
  rw [hmodule]
  refine Triple.support_reference.bind fun transform => .given fun htransform => ?_
  subst htransform
  refine (apply_makes hengine Delivered.about_files _).bind fun result =>
    .given fun ⟨memory, made, hmade, houtputs⟩ => ?_
  obtain ⟨units, hmodels⟩ := Engine.Sample.outputs_of_lower_link rfl hmade
  have hlookup : result.outputs.lookup (rootModuleOf root ++ "_CLinkModel") =
      some (Engine.Sample.cLinkModel (rootModuleOf root ++ "_CLinkModel") units) := by
    rw [houtputs, hmodels]
    exact List.lookup_cons_self
  refine (extract_makes Delivered.about_files hlookup).bind fun program =>
    .given fun ⟨name, hprogram⟩ => ?_
  subst hprogram
  exact (render_alone_delivers hengine rfl rfl rfl hdirectory).mono (fun _ => id)
    (fun _ _ hdelivered htold => ⟨_, hdelivered htold⟩) fun _ _ => id

/-- A link descriptor is installed for as long as it is lowered. -/
theorem link_delivers (program : Program) :
    Triple setup (Delivered start before root brought writes) (link program)
      (Tells fun compile => ∃ units, compile.Delivered start before root
        (brought ++ [(rootModuleOf root ++ "_CLinkModel", ⟨"linker.c", units⟩)])
        (writes ++ [⟨linkerPath directory, units⟩]))
      (fun _ _ => True) := by
  refine (Delivered.about_files.install_temporary hengine _).ensures.bind fun _ =>
    (lower_link_delivers hengine hdirectory _).attempt_bind (fun linked => ?_)
      fun failure => (Triple.any _).bind fun _ => .fail fun _ _ => trivial
  refine ((about_files_tells (.of_exists fun _ => Delivered.about_files) linked).uninstall
    hengine _).ensures.bind fun _ => ?_
  exact .pure fun _ => id

/-- The file of the lowered program, the link descriptor and the file of the lowered link descriptor
are written. -/
theorem run_generate_c_delivers :
    Triple setup (Delivered start before root brought writes) runGenerateC
      (fun _ compile => ∃ code descriptor units, compile.Delivered start before root
        (brought ++
          [(rootModuleOf root ++ "_CModel", ⟨setup.options.outputBase root ++ ".c", code⟩),
            (rootModuleOf root ++ "_CLinkModel", ⟨"linker.c", units⟩)])
        (writes ++ [⟨cPath directory (setup.options.outputBase root), code⟩,
          ⟨modelPath directory (rootModuleOf root ++ "_LinkModel"), descriptor⟩,
          ⟨linkerPath directory, units⟩]))
      (fun _ _ => True) := by
  refine .read_bind ((Delivered.about_files.ensure_support hengine _).ensures.bind fun _ => ?_)
  refine product_delivers.bind fun product => .given fun hmodule => ?_
  rw [hmodule]
  refine Triple.support_reference.bind fun transform => .given fun htransform => ?_
  subst htransform
  refine (Delivered.about_files.passive .root_reference).ensures.bind fun reference => ?_
  refine output_base_delivers.bind fun base => .given fun hbase => ?_
  subst hbase
  refine (apply_makes hengine Delivered.about_files _).bind fun result =>
    .given fun ⟨memory, made, hmade, houtputs⟩ => ?_
  have hapart : rootModuleOf root ++ "_CModel" ≠ rootModuleOf root ++ "_LinkModel" := by simp
  obtain ⟨functions, hmodels⟩ := Engine.Sample.outputs_of_lower_to_c rfl hapart hmade
  have hcode : result.outputs.lookup (rootModuleOf root ++ "_CModel") =
      some (Engine.Sample.cModel (rootModuleOf root ++ "_CModel") (setup.options.outputBase root)
        functions) := by
    rw [houtputs, hmodels]
    exact List.lookup_cons_self
  have hlink : result.outputs.lookup (rootModuleOf root ++ "_LinkModel") =
      some (Engine.Sample.linkModel (rootModuleOf root ++ "_LinkModel")
        (setup.options.outputBase root)) := by
    rw [houtputs, hmodels, List.lookup_cons, beq_false_of_ne hapart.symm]
    exact List.lookup_cons_self
  refine (extract_makes Delivered.about_files hcode).bind fun code =>
    .given fun ⟨_, hprogram⟩ => ?_
  subst hprogram
  refine (render_alone_delivers hengine rfl rfl rfl hdirectory).bind fun rendered => ?_
  cases rendered with
  | false =>
    refine (Triple.any _).bind fun program => (Triple.any _).bind fun found =>
      (Triple.any _).bind fun _ => (Triple.any _).bind fun linked => ?_
    exact .fail_bind fun _ _ => trivial
  | true =>
    refine Triple.mono ?_ (fun _ hdelivered => hdelivered rfl) (fun _ _ => id) fun _ _ => id
    refine (extract_makes Delivered.about_files hlink).bind fun descriptor =>
      .given fun ⟨_, hprogram⟩ => ?_
    subst hprogram
    refine (Triple.output_directory fun _ hdelivered => hdelivered.current).bind fun found =>
      .given fun hfound => ?_
    obtain rfl : found = directory := hfound.trans hdirectory
    refine save_delivers.bind fun _ => (link_delivers hengine hdirectory _).bind fun linked => ?_
    cases linked with
    | false => exact .fail_bind fun _ _ => trivial
    | true =>
      refine Triple.mono ((AboutFiles.of_exists fun _ => Delivered.about_files).passive
        Passive.advance).ensures (fun _ hdelivered => hdelivered rfl) ?_ fun _ _ => id
      rintro _ _ ⟨units, hdelivered⟩
      simp only [List.append_assoc, List.cons_append, List.nil_append] at hdelivered
      exact ⟨_, _, units, hdelivered⟩

/-- The file of the verification model is written, with the run-time sources at its end. -/
theorem run_generate_verification_delivers :
    Triple setup (Delivered start before root brought writes) runGenerateVerification
      (fun _ compile => ∃ model appendix,
        readRuntimeSupport (before.saveAll writes).2 setup.toolchain.runtimeSupport = .ok appendix ∧
          compile.Delivered start before root
            (brought ++
              [(rootModuleOf root ++ "_ZingModel",
                ⟨setup.options.outputBase root ++ ".zing", model⟩)])
            (writes ++ [⟨zingPath directory (setup.options.outputBase root), model ++ appendix⟩]))
      (fun _ _ => True) := by
  refine .read_bind ((Delivered.about_files.install_typed_model hengine).ensures.bind fun typed =>
    (Delivered.about_files.ensure_support hengine _).ensures.bind fun _ => ?_)
  refine output_base_delivers.bind fun base => .given fun hbase => ?_
  subst hbase
  refine product_delivers.bind fun product => .given fun hmodule => ?_
  rw [hmodule]
  refine Triple.support_reference.bind fun transform => .given fun htransform => ?_
  subst htransform
  refine (Delivered.about_files.passive .root_reference).ensures.bind fun reference => ?_
  refine (apply_makes hengine Delivered.about_files _).bind fun result =>
    .given fun ⟨memory, made, hmade, houtputs⟩ => ?_
  obtain ⟨machines, hmodels⟩ := Engine.Sample.outputs_of_lower_to_zing rfl hmade
  have hlookup : result.outputs.lookup (rootModuleOf root ++ "_ZingModel") =
      some (Engine.Sample.zingModel (rootModuleOf root ++ "_ZingModel")
        (setup.options.outputBase root ++ ".zing") machines) := by
    rw [houtputs, hmodels]
    exact List.lookup_cons_self
  refine (extract_makes Delivered.about_files hlookup).bind fun program =>
    .given fun ⟨_, hprogram⟩ => ?_
  subst hprogram
  refine .get_bind fun compile hcompile => ?_
  have hfiles : compile.world.files = (before.saveAll writes).2 := by rw [hcompile.files]
  rw [hfiles]
  refine Triple.mono (P := Delivered start before root brought writes) ?_
    (fun _ hsame => hsame ▸ hcompile) (fun _ _ => id) fun _ _ => id
  refine (Triple.of_except fun _ _ _ _ => trivial).bind fun appendix => .given fun happendix => ?_
  refine (render_delivers hengine rfl rfl rfl hdirectory).bind fun rendered => ?_
  cases rendered with
  | false => exact .fail_bind fun _ _ => trivial
  | true =>
    exact Triple.mono ((Delivered.about_files.passive (compile_model_passive _ _)).bind fun _ =>
      Delivered.about_files.passive Passive.advance).ensures (fun _ hdelivered => hdelivered rfl)
        (fun _ _ hdelivered => ⟨_, appendix, happendix, hdelivered⟩) fun _ _ => id

end

end Phase

end MachineCompiler
