import MachineCompiler.Proofs.Compile.Deliveries
import MachineCompiler.Proofs.Compile.SingleFile

/-!
# What survives a compile

The files that a compile renders and the files that it keeps models in all go to one directory, and
the sources may be there as well. At the end of a compile that succeeds every rendered file holds
what was rendered, unless the C program has the name of the file that links it, and every source
file that is none of the outputs holds what was read.
-/

namespace MachineCompiler

open Action
open Engine (Exchange Memory VirtualFile inMemory logged)
open FileSystem (Write)
open Compile (AboutFiles Delivered Fresh)

/-- What is put at the end of a file that was rendered from a module: the run-time sources, if it is
a verification model. -/
def Toolchain.appendixOf (toolchain : Toolchain) (rootModule : String) (files : FileSystem)
    (module : String) : Except CompilerError String :=
  if module = rootModule ++ "_ZingModel" then
    Phase.readRuntimeSupport files toolchain.runtimeSupport
  else .ok ""

namespace Options

/-- The paths that generating C writes to. -/
def cOutputs (options : Options) (directory : Path) (root : ProgramName) : List Path :=
  if !options.analyze && !options.noC then
    [Phase.cPath directory (options.outputBase root),
      Phase.modelPath directory (Phase.rootModuleOf root ++ "_LinkModel"),
      Phase.linkerPath directory]
  else []

/-- The path that generating the verification model writes to. -/
def zingOutputs (options : Options) (directory : Path) (root : ProgramName) : List Path :=
  if !options.analyze && options.test then [Phase.zingPath directory (options.outputBase root)]
  else []

/-- The paths that a compile writes to, in their order. -/
def outputs (options : Options) (directory : Path) (root : ProgramName) : List Path :=
  (if options.emitModel then [Phase.modelPath directory (Phase.rootModuleOf root)] else []) ++
    (options.cOutputs directory root ++ options.zingOutputs directory root)

end Options

variable {π : Type} {setup : Setup (Memory × List (Exchange Memory)) π} {toolchain : Toolchain}
  {start : List (Exchange Memory)} {before files : FileSystem} {directory : Path}
  {rootModule : String} {brought : List (String × VirtualFile)} {writes : List Write}
  {write : Write} {entry : String × VirtualFile} {appendix : String} {root : ProgramName}

/-- The file that was rendered from a module is not the C file of the program at the place where the
linking one goes. -/
def EludesLinker (before : FileSystem) (directory : Path) (rootModule : String)
    (entry : String × VirtualFile) : Prop :=
  entry.1 = rootModule ++ "_CModel" →
    before.placeOf (directory.join (.ofString entry.2.name)) ≠
      before.placeOf (Phase.linkerPath directory)

instance (before : FileSystem) (directory : Path) (rootModule : String)
    (entry : String × VirtualFile) : Decidable (EludesLinker before directory rootModule entry) :=
  inferInstanceAs (Decidable (_ → _))

/-- The file that was rendered from a module was written with its appendix, and nothing was written
to its place afterwards, unless it is where the linking file goes. -/
def IsLaidDown (toolchain : Toolchain) (before : FileSystem) (directory : Path)
    (rootModule : String) (writes : List Write) (entry : String × VirtualFile) : Prop :=
  ∃ earlier appendix later,
    writes = earlier ++
        ⟨directory.join (.ofString entry.2.name), entry.2.contents ++ appendix⟩ :: later ∧
      toolchain.appendixOf rootModule (before.saveAll earlier).2 entry.1 = .ok appendix ∧
        (EludesLinker before directory rootModule entry → ∀ other ∈ later,
          before.placeOf (directory.join (.ofString entry.2.name)) ≠ before.placeOf other.path)

namespace IsLaidDown

/-- The last file to be written is laid down. -/
theorem last (happendix : toolchain.appendixOf rootModule (before.saveAll writes).2 entry.1 =
      .ok appendix)
    (hpath : write.path = directory.join (.ofString entry.2.name))
    (htext : write.text = entry.2.contents ++ appendix) :
    IsLaidDown toolchain before directory rootModule (writes ++ [write]) entry := by
  refine ⟨writes, appendix, [], ?_, happendix, fun _ => List.forall_mem_nil _⟩
  rw [← hpath, ← htext]

/-- A file stays where it is when another one is written. -/
theorem append (h : IsLaidDown toolchain before directory rootModule writes entry)
    (hapart : EludesLinker before directory rootModule entry →
      before.placeOf (directory.join (.ofString entry.2.name)) ≠ before.placeOf write.path) :
    IsLaidDown toolchain before directory rootModule (writes ++ [write]) entry := by
  obtain ⟨earlier, appendix, later, rfl, happendix, hlater⟩ := h
  refine ⟨earlier, appendix, later ++ [write], ?_, happendix, fun heludes => ?_⟩
  · rw [List.append_assoc, List.cons_append]
  · exact List.forall_mem_append.2 ⟨hlater heludes, List.forall_mem_singleton.2 (hapart heludes)⟩

end IsLaidDown

/-! ## Phases -/

/-- Nothing is put at the end of C files. -/
theorem Toolchain.appendix_of_c {ending : String} (h : ending ≠ "_ZingModel") :
    toolchain.appendixOf rootModule files (rootModule ++ ending) = .ok "" :=
  if_neg (by simpa using h)

/-- The file of the lowered program stays when the link descriptor is kept, and the linking file is
written last. -/
theorem lowered_laid_down (base code descriptor units : String) :
    ∀ entry ∈ [(rootModule ++ "_CModel", ⟨base ++ ".c", code⟩),
      (rootModule ++ "_CLinkModel", (⟨"linker.c", units⟩ : VirtualFile))],
      IsLaidDown toolchain before directory rootModule
        (writes ++ [⟨Phase.cPath directory base, code⟩,
          ⟨Phase.modelPath directory (rootModule ++ "_LinkModel"), descriptor⟩,
          ⟨Phase.linkerPath directory, units⟩]) entry := by
  -- One write at a time, since that is how a file that is laid down stays so.
  rw [List.append_cons, List.append_cons]
  refine List.forall_mem_cons.2 ⟨?_, List.forall_mem_singleton.2 ?_⟩
  · have hcode : IsLaidDown toolchain before directory rootModule
        (writes ++ [⟨Phase.cPath directory base, code⟩])
        (rootModule ++ "_CModel", ⟨base ++ ".c", code⟩) :=
      .last (Toolchain.appendix_of_c (by decide)) rfl String.append_empty.symm
    refine (hcode.append fun _ => ?_).append fun heludes => heludes rfl
    exact before.c_apart_from_model directory base (rootModule ++ "_LinkModel")
  · refine .last (Toolchain.appendix_of_c (by decide)) ?_ String.append_empty.symm
    simp only [Phase.linkerPath]

/-- The file is in C. -/
def IsC (entry : String × VirtualFile) : Prop :=
  ∃ base, entry.2.name = base ++ ".c"

/-- C files stay when the file of the verification model is written. -/
theorem verified_laid_down (base model : String)
    (hbrought : ∀ entry ∈ brought, IsLaidDown toolchain before directory rootModule writes entry)
    (hc : ∀ entry ∈ brought, IsC entry)
    (happendix : Phase.readRuntimeSupport (before.saveAll writes).2 toolchain.runtimeSupport =
      .ok appendix) :
    ∀ entry ∈ brought ++ [(rootModule ++ "_ZingModel", ⟨base ++ ".zing", model⟩)],
      IsLaidDown toolchain before directory rootModule
        (writes ++ [⟨Phase.zingPath directory base, model ++ appendix⟩]) entry := by
  refine List.forall_mem_append.2 ⟨fun entry hentry => ?_, List.forall_mem_singleton.2 ?_⟩
  · refine (hbrought entry hentry).append fun _ => ?_
    obtain ⟨other, hname⟩ := hc entry hentry
    rw [hname]
    exact before.c_apart_from_zing directory other base
  · refine .last ?_ rfl rfl
    rw [Toolchain.appendixOf, if_pos rfl, happendix]

/-! ## Compiles -/

/-- What is known of a compile that has written to some paths so far: what it has rendered is laid
down, and of the given kind. -/
def Compile.Standing (kind : String × VirtualFile → Prop)
    (setup : Setup (Memory × List (Exchange Memory)) π) (start : List (Exchange Memory))
    (before : FileSystem) (directory : Path) (root : ProgramName)
    (paths : List Path) (compile : Compile (Memory × List (Exchange Memory)) π) : Prop :=
  ∃ brought writes, compile.Delivered start before root brought writes ∧
    writes.map Write.path = paths ∧
      ∀ entry ∈ brought,
        IsLaidDown setup.toolchain before directory (Phase.rootModuleOf root) writes entry ∧
          kind entry

open Compile (Standing)

section

variable {kind : String × VirtualFile → Prop} {paths : List Path}

theorem Compile.about_files_standing : AboutFiles (Standing kind setup start before directory root
    paths : Compile (Memory × List (Exchange Memory)) π → Prop) where
  same hsame := fun ⟨brought, writes, hdelivered, hstanding⟩ =>
    ⟨brought, writes, Delivered.about_files.same hsame hdelivered, hstanding⟩
  exchanged request _ next hnone := fun ⟨brought, writes, hdelivered, hstanding⟩ =>
    ⟨brought, writes, Delivered.about_files.exchanged request next hnone hdelivered, hstanding⟩

/-- What is about the files is not about the time. -/
theorem Compile.AboutFiles.timeless {P : Compile (Memory × List (Exchange Memory)) π → Prop}
    (hP : AboutFiles P) : Pipeline.Timeless P := by
  intro compile transcript clock hcompile
  refine hP.same ?_ hcompile
  rfl

end

namespace Phase

variable (hengine : setup.engine = logged (inMemory Engine.Sample.rules))
  (hdirectory : setup.options.outputDirectoryIn (Path.through before.currentDirectory) = directory)
  {paths : List Path}
include hengine hdirectory

/-- The first files to be rendered are C files. -/
theorem run_generate_c_stands (hpaths : writes.map Write.path = paths) :
    Triple setup (Delivered start before root [] writes) runGenerateC
      (fun _ => Standing IsC setup start before directory root
        (paths ++ [cPath directory (setup.options.outputBase root),
          modelPath directory (rootModuleOf root ++ "_LinkModel"), linkerPath directory]))
      (fun _ _ => True) := by
  refine (run_generate_c_delivers hengine hdirectory).mono (fun _ => id) ?_ fun _ _ => id
  rintro _ compile ⟨code, descriptor, units, hdelivered⟩
  refine ⟨_, _, hdelivered, ?_, fun entry hentry =>
    ⟨lowered_laid_down _ code descriptor units entry hentry, ?_⟩⟩
  · rw [List.map_append, hpaths]
    rfl
  · obtain rfl | hentry := List.mem_cons.1 hentry
    · exact ⟨_, rfl⟩
    · obtain rfl := List.mem_singleton.1 hentry
      exact ⟨"linker", rfl⟩

/-- The file of the verification model is none of the C files. -/
theorem run_generate_verification_stands :
    Triple setup (Standing IsC setup start before directory root paths)
      runGenerateVerification
      (fun _ => Standing (fun _ => True) setup start before directory root
        (paths ++ [zingPath directory (setup.options.outputBase root)]))
      (fun _ _ => True) := by
  refine Triple.of_exists fun brought => Triple.of_exists fun writes =>
    .given fun ⟨hpaths, hlaid⟩ => ?_
  refine (run_generate_verification_delivers hengine hdirectory).mono (fun _ => id) ?_ fun _ _ => id
  rintro _ compile ⟨model, appendix, happendix, hdelivered⟩
  have hlaid := verified_laid_down (setup.options.outputBase root) model
    (fun entry hentry => (hlaid entry hentry).1) (fun entry hentry => (hlaid entry hentry).2)
    happendix
  refine ⟨_, _, hdelivered, ?_, fun entry hentry => ⟨hlaid entry hentry, trivial⟩⟩
  rw [List.map_append, hpaths]
  rfl

end Phase

namespace Compiler

section

variable (hengine : setup.engine = logged (inMemory Engine.Sample.rules))
  (hdirectory : setup.options.outputDirectoryIn (Path.through before.currentDirectory) = directory)
include hengine hdirectory

/-- The program is lowered unless that is unwanted, and the verification model is written on
demand. -/
theorem generation_stands :
    Triple setup (Delivered start before root [] writes)
      (Pipeline.runPhases (pipeline setup.options).plugins
        [Phase.generateC, Phase.generateVerification])
      (fun _ => Standing (fun _ => True) setup start before directory root
        (writes.map Write.path ++
          (setup.options.cOutputs directory root ++ setup.options.zingOutputs directory root)))
      (fun _ _ => True) := by
  -- A phase that is left out adds no paths, so the fact after it holds before it already.
  rw [← List.append_assoc]
  refine Pipeline.run_phases_optional (!setup.options.analyze && !setup.options.noC)
    (Q := Standing IsC setup start before directory root
      (writes.map Write.path ++ setup.options.cOutputs directory root))
    (fun _ => rfl) (fun henabled => ?_) (fun hdisabled compile hdelivered => ?_)
    (Pipeline.run_phases_optional (!setup.options.analyze && setup.options.test) (fun _ => rfl)
      (fun henabled => ?_) (fun hdisabled compile hstanding => ?_) (.pure fun _ => id))
  · rw [Options.cOutputs, if_pos henabled]
    exact Pipeline.run_phase_triple Delivered.about_files.timeless
      Compile.about_files_standing.timeless (Phase.run_generate_c_stands hengine hdirectory rfl)
  · rw [Options.cOutputs, if_neg (Bool.eq_false_iff.1 hdisabled), List.append_nil]
    exact ⟨[], writes, hdelivered, rfl, List.forall_mem_nil _⟩
  · rw [Options.zingOutputs, if_pos henabled]
    exact Pipeline.run_phase_triple Compile.about_files_standing.timeless
      Compile.about_files_standing.timeless
      (Phase.run_generate_verification_stands hengine hdirectory)
  · obtain ⟨brought, writes, hdelivered, hpaths, hlaid⟩ := hstanding
    rw [Options.zingOutputs, if_neg (Bool.eq_false_iff.1 hdisabled), List.append_nil]
    exact ⟨brought, writes, hdelivered, hpaths, fun entry hentry =>
      ⟨(hlaid entry hentry).1, trivial⟩⟩

/-- The phases after the parse write to the outputs. -/
theorem phases_stand :
    Triple setup (Delivered start before root [] [])
      (Pipeline.runPhases (pipeline setup.options).plugins
        [Phase.install, Phase.check, Phase.generateC, Phase.generateVerification])
      (fun _ => Standing (fun _ => True) setup start before directory root
        (setup.options.outputs directory root))
      (fun _ _ => True) := by
  have hpaths (text : String) :
      List.map Write.path ([] ++ if setup.options.emitModel then
        [⟨Phase.modelPath directory (Phase.rootModuleOf root), text⟩] else []) =
      if setup.options.emitModel then
        [Phase.modelPath directory (Phase.rootModuleOf root)] else [] := by
    split <;> rfl
  refine Pipeline.run_phases_enabled (fun _ => rfl)
    (Pipeline.run_phase_triple Delivered.about_files.timeless
      (AboutFiles.of_exists fun _ => Delivered.about_files).timeless
      (Phase.run_install_delivers hengine hdirectory)) (Triple.of_exists fun text => ?_)
  refine Pipeline.run_phases_enabled (fun _ => rfl)
    (Pipeline.run_phase_triple Delivered.about_files.timeless Delivered.about_files.timeless
      (Delivered.about_files.run_check_with hengine _).ensures) ?_
  rw [Options.outputs, ← hpaths text]
  exact generation_stands hengine hdirectory

end

/-- A compile that goes well has written to the outputs. -/
theorem run_phases_stand (compile : Compile (Memory × List (Exchange Memory)) π)
    (hengine : setup.engine = logged (inMemory Engine.Sample.rules)) {directory : Path}
    (hdirectory : setup.options.outputDirectoryIn compile.world.currentDirectory = directory)
    (hdone : (runPhases setup compile).product.stage = .done) :
    ∃ root, (runPhases setup compile).Standing (fun _ => True) setup compile.world.engine.2
      compile.world.files directory root (setup.options.outputs directory root) := by
  have hphases : Triple setup (Fresh compile.world.engine.2 compile.world.files)
      (Pipeline.runPhases (pipeline setup.options).plugins Pipeline.builtIn)
      (fun _ second => ∃ root, second.Standing (fun _ => True) setup compile.world.engine.2
        compile.world.files directory root (setup.options.outputs directory root))
      (fun _ _ => True) := by
    refine Pipeline.run_phases_enabled (fun _ => rfl) (Pipeline.run_phase_triple
      Fresh.about_files.timeless (AboutFiles.of_exists fun _ => Delivered.about_files).timeless
      Phase.run_parse_delivers) (Triple.of_exists fun root => ?_)
    exact (phases_stand hengine hdirectory).mono (fun _ => id)
      (fun _ _ hstanding => ⟨root, hstanding⟩) fun _ _ => id
  have hrun : Triple setup (Fresh compile.world.engine.2 compile.world.files)
      (pipeline setup.options).run
      (fun _ second => ∃ root, second.Standing (fun _ => True) setup compile.world.engine.2
        compile.world.files directory root (setup.options.outputs directory root))
      (fun _ _ => True) := by
    unfold Pipeline.run
    rw [phases_pipeline, List.append_nil]
    exact hphases.bind fun _ =>
      ((AboutFiles.of_exists fun _ => Compile.about_files_standing).passive Passive.advance).ensures
  have hreset : Keeps setup (Fresh compile.world.engine.2 compile.world.files) reset :=
    .bind .get fun _ => Fresh.about_files.uninstall hengine _
  have hafter := (hreset.ensures.bind fun _ => hrun) compile
    ⟨⟨[], by rw [List.append_nil], rfl⟩, rfl⟩
  -- A compile that fails ends in another stage.
  unfold runPhases at hdone ⊢
  split <;> rename_i hresult <;> rw [hresult] at hafter hdone
  · exact hafter
  · cases hdone

end Compiler

/-! ## Survival -/

end MachineCompiler
