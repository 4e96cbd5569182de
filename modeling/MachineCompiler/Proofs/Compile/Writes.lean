import MachineCompiler.Proofs.Compile.Lowering
import MachineCompiler.Proofs.Compile.SingleFile
import MachineCompiler.Proofs.Compile.Traces
import MachineCompiler.Proofs.FileSystem.Containment
import MachineCompiler.Proofs.FileSystem.Saving

/-!
# Where a compile writes

A compile writes files for models, and the files that its engine brings. The former are named after
the root module and always lie in the output directory. The latter are wherever their names lead to
from there: a name that is absolute or goes above where it begins leads out of the directory.
-/

namespace MachineCompiler

open Action
open Engine (Exchange logged)
open FileSystem (Write)

variable {σ π α : Type} {engine : ModelEngine σ} {setup : Setup (σ × List (Exchange σ)) π}
  {start : List (Exchange σ)} {before : FileSystem} {directory path : Path} {text : String}
  {known : List Engine.VirtualFile} {exchanges : List (Exchange σ)}
  {compile : Compile (σ × List (Exchange σ)) π}

/-- The file was brought by one of the exchanges. -/
def IsBrought (exchanges : List (Exchange σ)) (file : Engine.VirtualFile) : Prop :=
  ∃ exchange ∈ exchanges, file ∈ exchange.answer.files

/-- The path is that of a file for a model, or of a file that one of the exchanges has brought. -/
inductive IsOutput (directory : Path) (exchanges : List (Exchange σ)) : Path → Prop where
  | model {module : String} (hmodule : '/' ∉ module.toList) :
      IsOutput directory exchanges (Phase.modelPath directory module)
  | brought {file : Engine.VirtualFile} (hbrought : IsBrought exchanges file) :
      IsOutput directory exchanges (directory.join (.ofString file.name))

theorem IsBrought.append {file : Engine.VirtualFile} (h : IsBrought exchanges file)
    (more : List (Exchange σ)) : IsBrought (exchanges ++ more) file :=
  h.imp fun _ ⟨hexchange, hfile⟩ => ⟨List.mem_append_left _ hexchange, hfile⟩

theorem IsOutput.append (h : IsOutput directory exchanges path) (more : List (Exchange σ)) :
    IsOutput directory (exchanges ++ more) path :=
  match h with
  | .model hmodule => .model hmodule
  | .brought hbrought => .brought (hbrought.append more)

/-- The files are what writing some outputs has made of the files before, the known files were
brought by exchanges since `start`, and the root module has a name without separators. -/
structure Compile.Written (start : List (Exchange σ)) (before : FileSystem) (directory : Path)
    (known : List Engine.VirtualFile) (compile : Compile (σ × List (Exchange σ)) π) : Prop where
  written : ∃ exchanges writes, compile.world.engine.2 = start ++ exchanges ∧
    compile.world.files = (before.saveAll writes).2 ∧
      (∀ write ∈ writes, IsOutput directory exchanges write.path) ∧
        ∀ file ∈ known, IsBrought exchanges file
  rootModule : '/' ∉ compile.product.rootModule.toList

open Compile (AboutFiles Written)

namespace Compile.Written

/-- What one more exchange brings is known from then on. -/
theorem exchanged (h : compile.Written start before directory known) (request : Engine.Request)
    (answer : Engine.Answer) (next : σ) :
    (compile.exchanged request answer next).Written start before directory
      (known ++ answer.files) := by
  obtain ⟨exchanges, writes, hlog, hfiles, houtputs, hknown⟩ := h.written
  refine ⟨⟨exchanges ++ [⟨compile.world.engine.1, request, answer⟩], writes, ?_, hfiles,
    fun write hwrite => (houtputs write hwrite).append _, ?_⟩, h.rootModule⟩
  · show compile.world.engine.2 ++ _ = _
    rw [hlog, List.append_assoc]
  · exact List.forall_mem_append.2 ⟨fun file hfile => (hknown file hfile).append _,
      fun file hfile => ⟨_, List.mem_append_right _ (List.mem_singleton_self _), hfile⟩⟩

/-- Less may be known. -/
theorem forget (h : compile.Written start before directory known) {less : List Engine.VirtualFile}
    (hless : less ⊆ known) : compile.Written start before directory less := by
  obtain ⟨exchanges, writes, hlog, hfiles, houtputs, hknown⟩ := h.written
  exact ⟨⟨exchanges, writes, hlog, hfiles, houtputs, fun file hfile => hknown file (hless hfile)⟩,
    h.rootModule⟩

theorem about_files : AboutFiles
    (Written start before directory known : Compile (σ × List (Exchange σ)) π → Prop) where
  same hsame h := by
    simp only [traces, Prod.mk.injEq] at hsame
    obtain ⟨hlog, -, hmodule, -, hfiles⟩ := hsame
    obtain ⟨hwritten, hplain⟩ := h
    rw [hlog, hfiles] at hwritten
    rw [hmodule] at hplain
    exact ⟨hwritten, hplain⟩
  exchanged request answer next hnone h := by
    have hexchanged := h.exchanged request answer next
    rwa [hnone, List.append_nil] at hexchanged

/-- One more output was written. -/
theorem saved (h : compile.Written start before directory known)
    (hpath : ∀ exchanges : List (Exchange σ), (∀ file ∈ known, IsBrought exchanges file) →
      IsOutput directory exchanges path) :
    Written start before directory known
      { compile with world := (compile.world.save path text).2 } := by
  obtain ⟨exchanges, writes, hlog, hfiles, houtputs, hknown⟩ := h.written
  refine ⟨⟨exchanges, writes ++ [⟨path, text⟩], hlog, ?_, ?_, hknown⟩, h.rootModule⟩
  · show (compile.world.files.save path text).2 = _
    rw [hfiles, FileSystem.save_all_append]
    rfl
  · exact List.forall_mem_append.2 ⟨houtputs, List.forall_mem_singleton.2 (hpath _ hknown)⟩

/-- The current directory stays the same. -/
theorem current (h : compile.Written start before directory known) :
    compile.world.currentDirectory = Path.through before.currentDirectory := by
  obtain ⟨_, writes, -, hfiles, -⟩ := h.written
  rw [World.currentDirectory, hfiles, (before.grows_save_all writes).current]

end Compile.Written

open Compile.Written (about_files)

/-! ## Writing and rendering -/

namespace Action

/-- An output is written, or the attempt to write it leaves directories. -/
theorem in_world_save_written
    (hpath : ∀ exchanges : List (Exchange σ), (∀ file ∈ known, IsBrought exchanges file) →
      IsOutput directory exchanges path) :
    Keeps setup (Written start before directory known) (inWorld (World.save · path text)) := by
  intro compile hwritten
  rw [run_in_world]
  exact hwritten.saved hpath

/-- A file for a model is written. -/
theorem save_model_written {module : String} (hmodule : '/' ∉ module.toList) :
    Keeps setup (Written start before directory known)
      (save (directory.join (.ofString (module ++ ".model"))) text) := by
  refine .bind (in_world_save_written fun _ _ => .model hmodule) fun outcome => ?_
  cases outcome with
  | none => exact .pure
  | some reason => exact .fail

/-- The files that are known are written, as far as they can be. -/
theorem write_files_written {appendix : String} {files : List Engine.VirtualFile}
    (hfiles : files ⊆ known) :
    Keeps setup (Written start before directory known)
      (Rendering.writeFiles directory appendix files) := by
  induction files with
  | nil => exact .pure
  | cons file rest ih =>
    obtain ⟨hfile, hrest⟩ := List.cons_subset.1 hfiles
    refine .bind (.bind (about_files.passive Passive.progress) fun _ => .bind (in_world_save_written
      fun _ hknown => .brought (hknown file hfile)) fun outcome => ?_) fun _ =>
        .bind (ih hrest) fun _ => .pure
    cases outcome with
    | none => exact .bind (about_files.passive (.modify_product fun _ => rfl)) fun _ => .pure
    | some reason => exact .bind (about_files.passive Passive.add_flag) fun _ => .pure

section

variable (hengine : setup.engine = logged engine)
  (hdirectory : setup.options.outputDirectoryIn (Path.through before.currentDirectory) = directory)
include hengine hdirectory

/-- What is rendered is brought by the engine, and written after the program was removed. -/
theorem render_written (program : Engine.Program) (renderer appendix : String) :
    Keeps setup (Written start before directory [])
      (Rendering.render program renderer appendix) := by
  have hask (name : ProgramName) (module : String) : Triple setup
      (Written start before directory []) (ask .render ((logged engine).render name module))
      (fun rendered => Written start before directory rendered.files)
      (fun _ => Written start before directory []) :=
    .ask_log (fun _ rendered next hwritten _ => hwritten.exchanged _ (.rendered rendered) next)
      fun _ _ next hwritten _ => hwritten.exchanged _ (.failed _ _) next
  refine .read_bind ?_
  split
  · exact .fail
  rename_i model _
  rw [hengine]
  refine Keeps.bind (about_files.install_temporary hengine _) fun _ => Triple.keeps ?_
  refine (hask _ model.name).attempt_bind (fun rendered => ?_)
    fun failure => ((about_files.uninstall hengine _).bind fun _ => .fail).triple
  refine Triple.mono (Keeps.triple (P := Written start before directory rendered.files) ?_)
    (fun _ => id) (fun _ _ hwritten => hwritten.forget (List.nil_subset _))
    fun _ _ hwritten => hwritten.forget (List.nil_subset _)
  refine .bind (about_files.uninstall hengine _) fun _ => .of_except_bind fun _ hvalue => ?_
  cases hvalue
  refine .bind (about_files.passive Passive.add_flags) fun _ => .ite (Triple.keeps ?_) .pure
  refine (Triple.output_directory fun _ hwritten => hwritten.current).bind fun found =>
    .given fun hfound => ?_
  obtain rfl : found = directory := hfound.trans hdirectory
  exact (write_files_written (List.Subset.refl _)).triple

end

end Action

/-! ## Phases -/

namespace Phase

-- The rules say what becomes of an action. Evaluating it would take much longer.
attribute [local irreducible] Action.run

/-- The name of the root module is made of letters, digits and underscores. -/
theorem product_written :
    Triple setup (Written start before directory known) product
      (fun product compile => compile.Written start before directory known ∧
        '/' ∉ product.rootModule.toList)
      (fun _ => Written start before directory known) :=
  .product _ fun _ hwritten => hwritten.rootModule

/-- The root module is named after the root file. -/
theorem run_parse_written : Keeps setup (Written start before directory known) runParse := by
  have hfailed (flags : List Flag) :
      Keeps setup (Written start before directory known) (parseFailed flags) :=
    .bind (about_files.passive Passive.add_flags) fun _ => .fail
  refine .read_bind (.bind .get fun compile => ?_)
  dsimp only
  split
  · exact hfailed _
  · refine .bind (about_files.passive (.bind .read fun _ => .in_world fun _ => rfl))
      fun outcome => ?_
    split
    · exact hfailed _
    refine .bind (about_files.passive Passive.add_flags) fun _ => .bind (fun compile hwritten => ?_)
      fun _ => about_files.passive Passive.advance
    rw [run_modify_product]
    exact ⟨hwritten.written, ModuleName.not_mem_of_file_name⟩

section

variable (hengine : setup.engine = logged engine)
  (hdirectory : setup.options.outputDirectoryIn (Path.through before.currentDirectory) = directory)
include hengine hdirectory

theorem run_install_written :
    Keeps setup (Written start before directory known) runInstall := by
  have hinstalled (program : Engine.Program) : Keeps setup (Written start before directory known)
      (do installProduct program; advance .modelInstalled) :=
    .bind (about_files.install_temporary hengine _) fun _ => about_files.passive Passive.advance
  refine .read_bind (.bind (about_files.ensure_support hengine _) fun _ => ?_)
  refine .bind (about_files.passive .root) fun root =>
    .bind (about_files.passive .support_reference) fun domain =>
      .bind (about_files.passive parsed_program_passive) fun program => Triple.keeps ?_
  refine product_written.bind fun product => .given fun hplain => Keeps.triple ?_
  refine .ite (Triple.keeps ?_) (hinstalled _)
  refine (Triple.output_directory fun _ hwritten => hwritten.current).bind fun found =>
    .given fun hfound => ?_
  obtain rfl : found = directory := hfound.trans hdirectory
  exact (Keeps.bind (save_model_written hplain) fun _ => hinstalled _).triple

/-- A link descriptor is lowered and rendered. -/
theorem link_written (program : Engine.Program) :
    Keeps setup (Written start before directory []) (link program) := by
  refine .bind (about_files.install_temporary hengine _) fun _ =>
    .bind (Keeps.attempt ?_) fun outcome =>
      .bind (about_files.uninstall hengine _) fun _ => .of_except
  refine .bind .product fun product =>
    .bind (about_files.passive .support_reference) fun transform => ?_
  exact .bind (about_files.apply hengine _) fun result => .bind (about_files.passive .extract_with)
    fun program => render_written hengine hdirectory _ _ _

theorem run_generate_c_written :
    Keeps setup (Written start before directory []) runGenerateC := by
  refine .read_bind (.bind (about_files.ensure_support hengine _) fun _ => Triple.keeps ?_)
  refine product_written.bind fun product => .given fun hplain => Keeps.triple ?_
  have hlink : '/' ∉ (product.rootModule ++ "_LinkModel").toList := by
    rw [String.toList_append, List.mem_append, not_or]
    exact ⟨hplain, by decide⟩
  refine .bind (about_files.passive .support_reference) fun transform =>
    .bind (about_files.passive .root_reference) fun root => .bind (about_files.passive .output_base)
      fun base => .bind (about_files.apply hengine _) fun result => ?_
  refine .bind (about_files.passive .extract_with) fun cProgram =>
    .bind (render_written hengine hdirectory _ _ _) fun rendered =>
      .bind (about_files.passive .extract_with) fun linkProgram => Triple.keeps ?_
  refine (Triple.output_directory fun _ hwritten => hwritten.current).bind fun found =>
    .given fun hfound => ?_
  obtain rfl : found = directory := hfound.trans hdirectory
  refine Keeps.triple (.bind (save_model_written hlink) fun _ =>
    .bind (link_written hengine hdirectory _) fun linked => ?_)
  exact .ite (.bind .fail fun _ => about_files.passive Passive.advance)
    (about_files.passive Passive.advance)

theorem run_generate_verification_written :
    Keeps setup (Written start before directory []) runGenerateVerification := by
  have hcompiled (source target : String) : Keeps setup (Written start before directory [])
      (do compileModel source target; advance .verificationTargetGenerated) :=
    .bind (about_files.passive (compile_model_passive _ _)) fun _ =>
      about_files.passive Passive.advance
  refine .read_bind (.bind (about_files.install_typed_model hengine) fun typed =>
    .bind (about_files.ensure_support hengine _) fun _ => ?_)
  refine .bind (about_files.passive .output_base) fun base => .bind .product fun product => ?_
  refine .bind (about_files.passive .support_reference) fun transform =>
    .bind (about_files.passive .root_reference) fun root =>
      .bind (about_files.apply hengine _) fun result =>
        .bind (about_files.passive .extract_with) fun program => .bind .get fun _ => ?_
  refine .bind .of_except fun appendix => .bind (render_written hengine hdirectory _ _ _)
    fun rendered => ?_
  exact .ite (.bind .fail fun _ => hcompiled _ _) (hcompiled _ _)

end

end Phase

namespace Compiler

/-- Whatever fails, a compile has written outputs only. -/
theorem run_phases_written (setup : Setup (σ × List (Exchange σ)) π)
    (compile : Compile (σ × List (Exchange σ)) π) (hengine : setup.engine = logged engine)
    (hmodule : compile.product.rootModule = "") :
    (runPhases setup compile).Written compile.world.engine.2 compile.world.files
      (setup.options.outputDirectoryIn compile.world.currentDirectory) [] := by
  have hphases : ∀ phase ∈ (Pipeline.builtIn : List (Phase (σ × List (Exchange σ)) π)),
      Keeps setup (Written compile.world.engine.2 compile.world.files
        (setup.options.outputDirectoryIn compile.world.currentDirectory) []) phase.run := by
    simp only [Pipeline.builtIn, List.forall_mem_cons, List.not_mem_nil, false_imp_iff,
      implies_true, and_true]
    exact ⟨Phase.run_parse_written, Phase.run_install_written hengine rfl,
      about_files.run_check_with hengine _, Phase.run_generate_c_written hengine rfl,
      Phase.run_generate_verification_written hengine rfl⟩
  have hreset : Keeps setup (Written compile.world.engine.2 compile.world.files
      (setup.options.outputDirectoryIn compile.world.currentDirectory) []) reset :=
    .bind .get fun _ => about_files.uninstall hengine _
  have hstart : compile.Written compile.world.engine.2 compile.world.files
      (setup.options.outputDirectoryIn compile.world.currentDirectory) [] :=
    ⟨⟨[], [], by rw [List.append_nil], rfl, List.forall_mem_nil _, List.forall_mem_nil _⟩,
      by rw [hmodule]; exact List.not_mem_nil⟩
  have hkeeps := hreset.bind (fun _ => Pipeline.run_keeps about_files.passive hphases setup.options)
    compile hstart
  unfold runPhases
  split <;> rename_i hrun <;> rw [hrun] at hkeeps
  · exact hkeeps
  · exact ⟨hkeeps.written, hkeeps.rootModule⟩

end Compiler

/-! ## Containment -/

/-- A file for a model lies in the output directory. -/
theorem FileSystem.place_of_model_path (files : FileSystem) (directory : Path) {module : String}
    (hmodule : '/' ∉ module.toList) :
    files.placeOf directory <+: files.placeOf (Phase.modelPath directory module) := by
  have hseparator : '/' ∉ (module ++ ".model").toList := by
    rw [String.toList_append, List.mem_append, not_or]
    exact ⟨hmodule, by decide⟩
  have hmem : 'm' ∈ (module ++ ".model").toList := by
    rw [String.toList_append]
    exact List.mem_append_right _ (by decide)
  exact place_prefix (Path.is_confined_of_plain hseparator hmem (by decide))

/-- An output lies in the output directory, unless its name leads out of it. -/
theorem IsOutput.contained (h : IsOutput directory exchanges path) (files : FileSystem) :
    files.placeOf directory <+: files.placeOf path ∨
      ∃ file, IsBrought exchanges file ∧ path = directory.join (.ofString file.name) ∧
        (Path.ofString file.name).isConfined = false := by
  cases h with
  | model hmodule => exact .inl (files.place_of_model_path directory hmodule)
  | @brought file hbrought =>
    cases hconfined : (Path.ofString file.name).isConfined with
    | true => exact .inl (FileSystem.place_prefix hconfined)
    | false => exact .inr ⟨file, hbrought, rfl, hconfined⟩

/-- Whatever the engine answers and whatever fails, a compile changes nothing but the files at the
places that it writes to, apart from missing directories that it makes. These places are inside the
output directory, unless a file was brought by the engine under a name that leads out of it. -/
theorem outputs_are_contained (engine : ModelEngine σ) (parser : Source.Parser π)
    (toolchain : Toolchain) (options : Options) (input : Path)
    (session : Session (σ × List (Exchange σ)) π) :
    let compiler : Compiler (σ × List (Exchange σ)) π := ⟨logged engine, parser, toolchain⟩
    let directory := options.outputDirectoryIn session.world.currentDirectory
    let before := session.world.files
    let after := (compiler.compile options input session).2
    ∃ exchanges writes, after.world.engine.2 = session.world.engine.2 ++ exchanges ∧
      after.world.files = (before.saveAll writes).2 ∧
        (∀ location, before.Untouched after.world.files location ∨
          ∃ write ∈ writes, location = before.placeOf write.path) ∧
          ∀ write ∈ writes, before.placeOf directory <+: before.placeOf write.path ∨
            ∃ file, IsBrought exchanges file ∧ write.path = directory.join (.ofString file.name) ∧
              (Path.ofString file.name).isConfined = false := by
  intro compiler directory before after
  obtain ⟨⟨exchanges, writes, hlog, hfiles, houtputs, -⟩, -⟩ :=
    Compiler.run_phases_written (compiler.setup options input) session.begin rfl rfl
  refine ⟨exchanges, writes, hlog, hfiles, fun location => ?_,
    fun write hwrite => (houtputs write hwrite).contained before⟩
  refine or_iff_not_imp_right.2 fun hplaces => ?_
  have hafter : after.world.files = (before.saveAll writes).2 := hfiles
  rw [hafter]
  exact before.untouched_save_all writes fun write hwrite hsame => hplaces ⟨write, hwrite, hsame⟩

/-- The output name leads out of the output directory, and the compile succeeds all the same. -/
theorem output_escapes_directory :
    let options : Options := { Options.default with
      outputDirectory := some (.ofString "/work/out"), outputName := some "../evil" }
    let compiler := SingleMachine.compiler (logged (Engine.inMemory Engine.Sample.rules))
    let compiled := compiler.compile options (.ofString "main.p")
      (SingleMachine.session "main.p" (.empty, []))
    compiled.1 = true ∧
      compiled.2.world.files.readText (.ofString "/work/evil.c") = .ok "// functions: \n" ∧
        (SingleMachine.tree "main.p").readText (.ofString "/work/evil.c") = .error .notFound ∧
          ¬(SingleMachine.tree "main.p").placeOf (.ofString "/work/out") <+:
            (SingleMachine.tree "main.p").placeOf (.ofString "/work/evil.c") := by
  intro options compiler compiled
  have hwritten : compiled.1 = true ∧
      compiled.2.world.files.readText (.ofString "/work/evil.c") = .ok "// functions: \n" := by
    rw [Compiler.succeeded_compile, Compiler.files_compile,
      SingleMachine.main_is_plain.run_phases_eq _ _ rfl]
    decide +kernel
  exact ⟨hwritten.1, hwritten.2, by decide +kernel, by decide +kernel⟩

end MachineCompiler
