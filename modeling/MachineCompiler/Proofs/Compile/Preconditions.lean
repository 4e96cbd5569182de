import MachineCompiler.Proofs.Compile.History
import MachineCompiler.Proofs.Compile.Poise

/-!
# What the engine is asked for

A compile asks its engine only for what the engine is ready for. The records say what is installed,
so that new programs have new names and only installed ones are removed; the names of the outputs
are all different; and a model stays installed for as long as something is asked about it. This
holds wherever a compile fails: what could not be removed stays on record and is removed first by
the next compile.
-/

namespace MachineCompiler

open Action
open Engine (Answer Exchange Ledger Memory ModuleRef Request Rules inMemory logged)
open SupportModule (isAnyIn)
open Compile (Poised Lingers)

variable {σ π α β : Type} {rules : Rules} {setup : Setup (Memory × List (Exchange Memory)) π}
  {start : List (Exchange Memory)} {root : ProgramName} {current : Path}
  {support : List SupportModule} {known : List (ProgramName × String)}

/-! ## Phases -/

/-- The endings of the outputs that a compile with the options takes from its transforms. -/
def Options.outputEndings (options : Options) : List String :=
  (if !options.analyze && !options.noC then ["_CModel", "_LinkModel", "_CLinkModel"] else []) ++
    (if !options.analyze && options.test then ["_WithTypes", "_ZingModel"] else [])

namespace Phase

-- The rules say what becomes of an action. Evaluating it would take much longer.
attribute [local irreducible] Action.run

/-- The root file is another program than the output with the ending. -/
def SetsApart (setup : Setup σ π) (current : Path) (root : ProgramName) (ending : String) : Prop :=
  ∀ name, outputName (setup.options.outputDirectoryIn current) (rootModuleOf root) ending = .ok name →
    (root == name) = false

instance (setup : Setup σ π) (current : Path) (root : ProgramName) (ending : String) :
    Decidable (SetsApart setup current root ending) :=
  match hname : outputName (setup.options.outputDirectoryIn current) (rootModuleOf root) ending with
  | .ok name => decidable_of_iff ((root == name) = false)
    ⟨fun h _ hother => Except.ok.inj (hname.symm.trans hother) ▸ h, fun h => h name hname⟩
  | .error _ => .isTrue fun _ hother => nomatch hname.symm.trans hother

variable {name : ProgramName} {ending : String}

/-- What is put into the output directory is no support program. -/
theorem not_any_of_output {rootModule : String} {directory place : Path}
    (h : outputName place rootModule ending = .ok name) : isAnyIn directory name = false :=
  SupportModule.is_any_in_of_model h

/-- The name of an output is new when only the root file is known. -/
theorem is_new_of_apart (hapart : SetsApart setup current root ending)
    (hname : outputName (setup.options.outputDirectoryIn current) (rootModuleOf root) ending =
      .ok name) : IsNew [(root, rootModuleOf root)] name :=
  List.forall_mem_singleton.2 (hapart name hname)

/-- The products so far, with the root module among them. -/
theorem product_poised :
    Triple setup (Poised setup start root current support known) product
      (fun product compile => compile.Poised setup start root current support known ∧
        product.rootModule = rootModuleOf root)
      (fun _ => Lingers setup start root current known) :=
  .product _ fun _ hpoised => Poised.rootModule hpoised

/-- The reference to the root module. -/
theorem root_reference_poised :
    Triple setup (Poised setup start root current support known) rootReference
      (fun reference compile => compile.Poised setup start root current support known ∧
        reference = .within (rootModuleOf root) root.shown)
      (fun _ => Lingers setup start root current known) := by
  refine (Triple.root fun _ hpoised => Poised.named hpoised).bind fun value => .given fun hroot => ?_
  subst hroot
  exact product_poised.bind fun product => .given fun hmodule =>
    .pure fun _ hpoised => ⟨hpoised, by rw [hmodule]⟩

/-- The root model is installed, and known from then on. -/
theorem run_install_poised (hengine : setup.engine = logged (inMemory rules))
    (hroot : isAnyIn setup.toolchain.supportDirectory root = false) :
    Triple setup (Poised setup start root current [] []) runInstall
      (fun _ => Poised setup start root current [.sourceDomain] [(root, rootModuleOf root)])
      (fun _ => Lingers setup start root current []) := by
  refine .read_bind ((ensure_support_poised hengine _).bind fun _ => ?_)
  refine (Triple.root fun _ hpoised => Poised.named hpoised).bind fun value => .given fun hvalue => ?_
  subst hvalue
  refine (Gentle.poised .support_reference).bind fun domain => ?_
  refine parsed_program_gentle.poised.bind fun program => product_poised.bind fun product =>
    .given fun hmodule => ?_
  rw [hmodule]
  have hinstall : Triple setup (Poised setup start value current [.sourceDomain] [])
      (do
        installProduct (rootProgram value (rootModuleOf value) domain program)
        advance .modelInstalled)
      (fun _ => Poised setup start value current [.sourceDomain] [(value, rootModuleOf value)])
      (fun _ => Lingers setup start value current []) := by
    have hmodel : ((rootProgram value (rootModuleOf value) domain program).withSetting
        Engine.keepLineNumbers "TRUE").model? (rootModuleOf value) =
          some (program.toModel (rootModuleOf value) domain) := by
      simp [rootProgram, Engine.Program.withSetting, Engine.Program.withModel,
        Engine.Program.named, Engine.Program.model?, Source.Program.toModel]
    refine ((install_temporary_poised hengine ((rootProgram value (rootModuleOf value) domain
      program).withSetting Engine.keepLineNumbers "TRUE") (List.forall_mem_nil _) hroot
        hmodel).mono (fun _ => id) (fun _ _ => And.left) fun _ _ => id).bind fun _ => ?_
    exact (Gentle.poised Leaves.advance).mono (fun _ => id) (fun _ _ => id) fun _ _ hlingers =>
      hlingers.mono (List.forall_mem_nil _)
  split
  · refine (Gentle.poised .output_directory).bind fun directory => ?_
    exact (Gentle.poised Leaves.save).bind fun _ => hinstall
  · exact hinstall

/-- The root model is there to be checked. -/
theorem run_check_with_poised (hengine : setup.engine = logged (inMemory rules))
    (patterns : List ErrorPattern) :
    Triple setup (Poised setup start root current support [(root, rootModuleOf root)])
      (runCheckWith patterns)
      (fun _ => Poised setup start root current support [(root, rootModuleOf root)])
      (fun _ => Lingers setup start root current [(root, rootModuleOf root)]) := by
  refine .read_bind ((Triple.root fun _ hpoised => Poised.named hpoised).bind fun value =>
    .given fun hvalue => ?_)
  subst hvalue
  refine product_poised.bind fun product => .given fun hmodule => ?_
  rw [hmodule, hengine]
  refine (ask_poised rfl (fun compile hpoised => ⟨hpoised, ?_⟩)
    (fun _ hready => Memory.query_fair hready forall_patterns_readable) fun memory =>
      ((Engine.in_memory_keeps_to rules).query _ _ _ memory trivial).2).bind fun outcome => ?_
  · exact hpoised.held (value, rootModuleOf value) List.mem_cons_self
  · exact (weigh_passive outcome value patterns).gentle.poised.mono (fun _ => And.left)
      (fun _ _ => id) fun _ _ => id

/-- An output with a new name may be rendered. -/
theorem render_output_poised (hengine : setup.engine = logged (inMemory rules))
    {program : Engine.Program} {place : Path} {rootModule module : String}
    (renderer appendix : String)
    (hname : outputName place rootModule ending = .ok program.name)
    (hmodels : ∃ model, program.models = [model] ∧ model.name = module)
    (hnew : IsNew known program.name) :
    Triple setup (Poised setup start root current support known)
      (Rendering.render program renderer appendix)
      (fun _ => Poised setup start root current support known)
      (fun _ => Lingers setup start root current known) := by
  obtain ⟨model, hmodels, -⟩ := hmodels
  exact render_poised hengine renderer appendix hnew (not_any_of_output hname) hmodels

/-- An installed link descriptor may be lowered, when its output has a new name. -/
theorem lower_link_poised (hengine : setup.engine = logged (inMemory rules))
    (entry : ProgramName × String) (hentry : entry ∈ known)
    (hsupport : .linkTransform ∈ support)
    (hnew : ∀ name, outputName (setup.options.outputDirectoryIn current) (rootModuleOf root)
      "_CLinkModel" = .ok name → IsNew known name) :
    Triple setup (Poised setup start root current support known)
      (lowerLink (.within entry.2 entry.1.shown))
      (fun _ => Poised setup start root current support known)
      (fun _ => Lingers setup start root current known) := by
  refine product_poised.bind fun product => .given fun hmodule => ?_
  rw [hmodule]
  refine Triple.support_reference.bind fun transform => .given fun htransform => ?_
  refine (apply_poised hengine ⟨⟨.linkTransform, hsupport, htransform⟩, fun reference hreference =>
    ⟨entry, hentry, by simpa using hreference⟩⟩).bind fun result => .given fun hresult => ?_
  refine (extract_poised hresult).bind fun program => .given fun ⟨hname, hmodels⟩ => ?_
  exact render_output_poised hengine cRenderer "" hname hmodels (hnew _ hname)

/-- A link descriptor may be linked while only the root model is known. -/
theorem link_poised (hengine : setup.engine = logged (inMemory rules))
    {program : Engine.Program} (hsupport : .linkTransform ∈ support)
    (hname : outputName (setup.options.outputDirectoryIn current) (rootModuleOf root) "_LinkModel" =
      .ok program.name)
    (hmodels : ∃ model, program.models = [model] ∧ model.name = rootModuleOf root ++ "_LinkModel")
    (hlink : SetsApart setup current root "_LinkModel")
    (hlowered : SetsApart setup current root "_CLinkModel") :
    Triple setup (Poised setup start root current support [(root, rootModuleOf root)])
      (link program)
      (fun _ => Poised setup start root current support [(root, rootModuleOf root)])
      (fun _ => Lingers setup start root current [(root, rootModuleOf root)]) := by
  obtain ⟨model, hmodels, -⟩ := hmodels
  have hmodel : (program.withSetting Engine.keepLineNumbers "TRUE").model? model.name =
      some model := by
    simp [Engine.Program.withSetting, Engine.Program.model?, hmodels]
  unfold link
  rw [hmodels]
  refine bracket_poised hengine (is_new_of_apart hlink hname) (not_any_of_output hname) hmodel ?_
    (fun linked => .pure fun _ => id) fun failure => .fail fun _ => id
  refine (lower_link_poised hengine (program.name, model.name) List.mem_cons_self
    hsupport fun other hother => ?_).mono (fun _ => And.left) (fun _ _ => id) fun _ _ => id
  refine List.forall_mem_cons.2 ⟨?_, is_new_of_apart hlowered hother⟩
  exact output_names_apart (by decide) (by decide) (by decide) hname hother

/-- The C program and the link descriptor may be generated while only the root model is known. -/
theorem run_generate_c_poised (hengine : setup.engine = logged (inMemory rules))
    (hc : SetsApart setup current root "_CModel")
    (hlink : SetsApart setup current root "_LinkModel")
    (hlowered : SetsApart setup current root "_CLinkModel") :
    Triple setup (Poised setup start root current support [(root, rootModuleOf root)]) runGenerateC
      (fun _ => Poised setup start root current
        ([.targetDomain, .linkTransform, .targetTransform] ++ support) [(root, rootModuleOf root)])
      (fun _ => Lingers setup start root current [(root, rootModuleOf root)]) := by
  refine .read_bind ((ensure_support_poised hengine _).bind fun _ => ?_)
  refine product_poised.bind fun product => .given fun hmodule => ?_
  rw [hmodule]
  refine Triple.support_reference.bind fun transform => .given fun htransform => ?_
  refine root_reference_poised.bind fun reference => .given fun hreference => ?_
  refine (Gentle.poised .output_base).bind fun base => ?_
  refine (apply_poised hengine ⟨⟨.targetTransform, by simp, htransform⟩, fun other hother =>
    ⟨_, List.mem_cons_self, ?_⟩⟩).bind fun result => .given fun hresult => ?_
  · obtain rfl : other = reference := by simpa using hother
    exact hreference
  refine (extract_poised hresult).bind fun cProgram => .given fun ⟨hname, hmodels⟩ => ?_
  refine (render_output_poised hengine cRenderer "" hname hmodels (is_new_of_apart hc hname)).bind
    fun rendered => ?_
  refine (extract_poised hresult).bind fun linkProgram => .given fun ⟨hname, hmodels⟩ => ?_
  refine (Gentle.poised .output_directory).bind fun directory => ?_
  refine (Gentle.poised Leaves.save).bind fun _ => ?_
  refine (link_poised hengine (by simp) hname hmodels hlink hlowered).bind fun linked => ?_
  exact Gentle.poised (.ite (.bind .fail fun _ => Leaves.advance) Leaves.advance)

/-- The model with inferred types is installed, and known from then on. -/
theorem install_typed_model_poised (hengine : setup.engine = logged (inMemory rules))
    (htyped : SetsApart setup current root "_WithTypes") :
    Triple setup (Poised setup start root current support [(root, rootModuleOf root)])
      installTypedModel
      (fun reference compile => ∃ name,
        outputName (setup.options.outputDirectoryIn current) (rootModuleOf root) "_WithTypes" =
            .ok name ∧
          reference = .within (rootModuleOf root ++ "_WithTypes") name.shown ∧
          compile.Poised setup start root current (.inferredTypesTransform :: support)
            [(name, rootModuleOf root ++ "_WithTypes"), (root, rootModuleOf root)])
      (fun _ => Lingers setup start root current [(root, rootModuleOf root)]) := by
  refine (ensure_support_poised hengine _).bind fun _ => ?_
  refine product_poised.bind fun product => .given fun hmodule => ?_
  rw [hmodule]
  refine Triple.support_reference.bind fun transform => .given fun htransform => ?_
  refine root_reference_poised.bind fun reference => .given fun hreference => ?_
  refine (apply_poised hengine ⟨⟨.inferredTypesTransform, by simp, htransform⟩, fun other hother =>
    ⟨_, List.mem_cons_self, ?_⟩⟩).bind fun result => .given fun hresult => ?_
  · obtain rfl : other = reference := by simpa using hother
    exact hreference
  refine (extract_poised hresult).bind fun program => .given fun ⟨hname, hmodels⟩ => ?_
  obtain ⟨model, hmodels, hmodel⟩ := hmodels
  have hfound : (program.withSetting Engine.keepLineNumbers "TRUE").model?
      (rootModuleOf root ++ "_WithTypes") = some model := by
    simp [Engine.Program.withSetting, Engine.Program.model?, hmodels, hmodel]
  refine (install_temporary_poised hengine (program.withSetting _ _)
    (is_new_of_apart htyped hname) (not_any_of_output hname) hfound).bind fun _ => ?_
  exact .pure fun _ hpoised => ⟨program.name, hname, rfl, hpoised.1⟩

/-- The verification model may be generated while only the root model is known. -/
theorem run_generate_verification_poised (hengine : setup.engine = logged (inMemory rules))
    (htyped : SetsApart setup current root "_WithTypes")
    (hmodel : SetsApart setup current root "_ZingModel") :
    Triple setup (Poised setup start root current support [(root, rootModuleOf root)])
      runGenerateVerification (fun _ compile => compile.Proper start)
      (fun _ compile => compile.Proper start) := by
  refine .read_bind (((install_typed_model_poised hengine htyped).mono (fun _ => id)
    (fun _ _ => id) fun _ _ => Compile.Lingers.proper).bind fun typed => ?_)
  rintro compile ⟨typedName, htypedName, rfl, hpoised⟩
  revert compile
  refine Triple.mono
    (Q := fun _ => Poised setup start root current ([.verificationDomain, .verificationTransform] ++
      .inferredTypesTransform :: support)
        [(typedName, rootModuleOf root ++ "_WithTypes"), (root, rootModuleOf root)])
    (E := fun _ => Lingers setup start root current
      [(typedName, rootModuleOf root ++ "_WithTypes"), (root, rootModuleOf root)])
    ?_ (fun _ => id) (fun _ _ => Poised.proper) fun _ _ => Compile.Lingers.proper
  refine (ensure_support_poised hengine _).bind fun _ => (Gentle.poised .output_base).bind
    fun base => product_poised.bind fun product => .given fun hmodule => ?_
  rw [hmodule]
  refine Triple.support_reference.bind fun transform => .given fun htransform => ?_
  refine root_reference_poised.bind fun reference => .given fun hreference => ?_
  refine (apply_poised hengine ⟨⟨.verificationTransform, by simp, htransform⟩, fun other hother =>
    ?_⟩).bind fun result => .given fun hresult => ?_
  · obtain rfl | rfl : other = reference ∨ other = _ := by simpa using hother
    · exact ⟨_, List.mem_cons_of_mem _ List.mem_cons_self, hreference⟩
    · exact ⟨_, List.mem_cons_self, rfl⟩
  refine (extract_poised hresult).bind fun program => .given fun ⟨hname, hmodels⟩ => ?_
  refine (Gentle.poised .get).bind fun _ => (Gentle.poised .of_except).bind fun appendix => ?_
  refine (render_output_poised hengine verificationRenderer appendix hname hmodels
    (List.forall_mem_cons.2 ⟨?_, is_new_of_apart hmodel hname⟩)).bind fun rendered => ?_
  · exact output_names_apart (by decide) (by decide) (by decide) htypedName hname
  have compiled : Gentle setup (do
      compileModel (base ++ ".zing") (base ++ ".dll")
      advance .verificationTargetGenerated : Action _ _ Unit) :=
    .bind (compile_model_gentle _ _) fun _ => Leaves.advance
  exact Gentle.poised (.ite (.bind .fail fun _ => compiled) compiled)

end Phase

/-! ## Compiles -/

/-- The input is no support file and no output of its own compile. -/
def Setup.Admits (setup : Setup σ π) (current : Path) : Prop :=
  ∀ root, ProgramName.resolve current setup.input = .ok root →
    isAnyIn setup.toolchain.supportDirectory root = false ∧
      ∀ ending ∈ setup.options.outputEndings, Phase.SetsApart setup current root ending

/-- What is known of a compile before its program was parsed: the records are exact, and no program
is tracked. -/
structure Compile.Vacant (setup : Setup (Memory × List (Exchange Memory)) π)
    (start : List (Exchange Memory)) (current : Path)
    (compile : Compile (Memory × List (Exchange Memory)) π) : Prop where
  exact : compile.Exact Memory.ledger.logged setup
  untracked : ∀ name, compile.installed.contains name = false
  proper : compile.Proper start
  current : compile.world.currentDirectory = current

open Compile (Proper Vacant)

/-- Once the root file is found, nothing is known to be installed. -/
theorem Compile.Vacant.poised {compile : Compile (Memory × List (Exchange Memory)) π}
    (h : compile.Vacant setup start current) (hroot : compile.product.root = some root)
    (hmodule : compile.product.rootModule = Phase.rootModuleOf root) :
    compile.Poised setup start root current [] [] where
  exact := h.exact
  tracked name := by simp [h.untracked]
  apart := List.forall_mem_nil _
  held := List.forall_mem_nil _
  supplied := List.forall_mem_nil _
  proper := h.proper
  named := hroot
  rootModule := hmodule
  current := h.current

/-- Parsing asks the engine for nothing. -/
theorem Phase.run_parse_poised :
    Triple setup (Vacant setup start current) runParse
      (fun _ compile => ∃ root, ProgramName.resolve current setup.input = .ok root ∧
        compile.Poised setup start root current [] [])
      (fun _ => Proper start) := by
  have hfailed (flags : List Flag) : Triple setup (Vacant setup start current) (parseFailed flags)
      (fun _ compile => ∃ root, ProgramName.resolve current setup.input = .ok root ∧
        compile.Poised setup start root current [] [])
      (fun _ => Proper start) := by
    intro compile hvacant
    rw [parseFailed, run_bind, run_add_flags]
    exact hvacant.proper
  refine .read_bind (.get_bind fun compile hvacant => ?_)
  dsimp only
  rw [hvacant.current]
  cases hroot : ProgramName.resolve current setup.input with
  | error error =>
    rw [hroot] at hfailed
    rintro _ rfl
    exact hfailed _ _ hvacant
  | ok root =>
    rw [hroot] at hfailed
    rintro _ rfl
    rw [run_bind, run_resolve_files]
    generalize (Source.resolve _ _ _ _) = found
    rcases found with ⟨flags | resolution, parser⟩ <;> dsimp only
    · exact hfailed _ _ { hvacant with }
    · rw [run_bind, run_add_flags]
      dsimp only
      rw [run_bind, run_modify_product]
      refine (Gentle.poised Leaves.advance _ ?_).mono
        (fun _ _ hpoised => ⟨root, rfl, hpoised⟩) fun _ _ => Compile.Lingers.proper
      exact Compile.Vacant.poised { hvacant with } rfl rfl

namespace Compiler

variable {compile : Compile (Memory × List (Exchange Memory)) π}

/-- A reset removes all that is tracked, which is installed. -/
theorem reset_vacant (hengine : setup.engine = logged (inMemory rules)) :
    Triple setup
      (fun compile => compile.Exact Memory.ledger.logged setup ∧
        compile.world.engine.2 = start ∧ compile.world.currentDirectory = current)
      reset (fun _ => Vacant setup start current) (fun _ => Proper start) := by
  rintro compile ⟨hexact, hlog, hcurrent⟩
  have hproper : compile.Proper start :=
    ⟨[], by rw [hlog, List.append_nil], List.forall_mem_nil _⟩
  show After _ _ ((uninstall compile.installed.programs).run setup compile)
  cases htracked : compile.installed.programs with
  | nil =>
    refine ⟨hexact, fun name => ?_, hproper, hcurrent⟩
    rw [Installed.contains, htracked]
    rfl
  | cons first rest =>
    have hcontains : ∀ name ∈ first :: rest, compile.installed.contains name = true :=
      fun name hname => Installed.contains_iff.2 ⟨name, htracked ▸ hname, BEq.rfl⟩
    have hready : compile.world.engine.1.Ready (.uninstall (first :: rest)) :=
      fun name hname => (hexact.held_iff name).2 (.inl (hcontains name hname))
    rw [run_uninstall_ready hengine hready]
    by_cases hrefused : compile.world.engine.1.refused = some .uninstall
    · rw [if_pos hrefused]
      exact hproper.exchanged hready (Or.inl rfl)
    · rw [if_neg hrefused]
      refine ⟨hexact.uninstall (fun name hname => hexact.apart name (hcontains name hname)) trivial
        rfl, fun name => ?_, hproper.exchanged hready rfl, hcurrent⟩
      refine Bool.eq_false_iff.2 fun hleft => ?_
      obtain ⟨hheld, hkept⟩ := Installed.contains_untrack_all.1 hleft
      obtain ⟨tracked, hmem, hsame⟩ := Installed.contains_iff.1 hheld
      rw [htracked] at hmem
      exact Bool.eq_false_iff.1 hkept (List.any_eq_true.2 ⟨tracked, hmem, BEq.symm hsame⟩)

/-- The phases after the parse ask only for what the engine is ready for. -/
theorem phases_proper (hengine : setup.engine = logged (inMemory rules))
    (hroot : isAnyIn setup.toolchain.supportDirectory root = false)
    (hapart : ∀ ending ∈ setup.options.outputEndings, Phase.SetsApart setup current root ending) :
    Triple setup (Poised setup start root current [] [])
      (Pipeline.runPhases (pipeline setup.options).plugins
        [Phase.install, Phase.check, Phase.generateC, Phase.generateVerification])
      (fun _ => Proper start) (fun _ => Proper start) := by
  have htimeless {support : List SupportModule} {known : List (ProgramName × String)} :
      Pipeline.Timeless (Poised setup start root current support known) :=
    fun _ _ _ hpoised => hpoised.same rfl
  have hverification {support : List SupportModule} : Triple setup
      (Poised setup start root current support [(root, Phase.rootModuleOf root)])
      (Pipeline.runPhases (pipeline setup.options).plugins [Phase.generateVerification])
      (fun _ => Proper start) (fun _ => Proper start) := by
    refine Pipeline.run_phases_optional (!setup.options.analyze && setup.options.test)
      (fun _ => rfl) (fun henabled => ?_) (fun _ _ => Poised.proper) (.pure fun _ => id)
    have hending : ∀ ending ∈ ["_WithTypes", "_ZingModel"],
        Phase.SetsApart setup current root ending := fun ending hending =>
      hapart ending (by
          rw [Options.outputEndings, if_pos henabled]
          exact List.mem_append_right _ hending)
    exact Pipeline.run_phase_triple htimeless (fun _ _ _ hproper => hproper)
      (Phase.run_generate_verification_poised hengine (hending _ (by simp)) (hending _ (by simp)))
  have hgeneration {support : List SupportModule} : Triple setup
      (Poised setup start root current support [(root, Phase.rootModuleOf root)])
      (Pipeline.runPhases (pipeline setup.options).plugins
        [Phase.generateC, Phase.generateVerification])
      (fun _ => Proper start) (fun _ => Proper start) := by
    cases henabled : !setup.options.analyze && !setup.options.noC with
    | false => exact Pipeline.run_phases_disabled (fun _ => henabled) hverification
    | true =>
      have hending : ∀ ending ∈ ["_CModel", "_LinkModel", "_CLinkModel"],
          Phase.SetsApart setup current root ending := fun ending hending =>
        hapart ending (by
            rw [Options.outputEndings, if_pos henabled]
            exact List.mem_append_left _ hending)
      refine Pipeline.run_phases_enabled (fun _ => henabled)
        (Pipeline.run_phase_triple htimeless htimeless
          ((Phase.run_generate_c_poised hengine (hending _ (by simp)) (hending _ (by simp))
            (hending _ (by simp))).mono (fun _ => id) (fun _ _ => id)
              fun _ _ => Compile.Lingers.proper)) hverification
  refine Pipeline.run_phases_enabled (fun _ => rfl) (Pipeline.run_phase_triple htimeless htimeless
    ((Phase.run_install_poised hengine hroot).mono (fun _ => id) (fun _ _ => id)
      fun _ _ => Compile.Lingers.proper)) ?_
  exact Pipeline.run_phases_enabled (fun _ => rfl) (Pipeline.run_phase_triple htimeless htimeless
    ((Phase.run_check_with_poised hengine Phase.errorPatterns).mono (fun _ => id) (fun _ _ => id)
      fun _ _ => Compile.Lingers.proper)) hgeneration

/-- A compile asks only for what the engine is ready for. -/
theorem run_phases_proper (hengine : setup.engine = logged (inMemory rules))
    (hexact : compile.Exact Memory.ledger.logged setup)
    (hadmits : setup.Admits compile.world.currentDirectory) :
    (runPhases setup compile).Proper compile.world.engine.2 := by
  have hphases : Triple setup (Vacant setup compile.world.engine.2 compile.world.currentDirectory)
      (Pipeline.runPhases (pipeline setup.options).plugins Pipeline.builtIn)
      (fun _ => Proper compile.world.engine.2) (fun _ => Proper compile.world.engine.2) := by
    refine Pipeline.run_phases_enabled (fun _ => rfl) (Pipeline.run_phase_triple ?_ ?_
      Phase.run_parse_poised) ?_
    · exact fun _ _ _ hvacant => { hvacant with }
    · exact fun _ _ _ ⟨root, hroot, hpoised⟩ => ⟨root, hroot, hpoised.same rfl⟩
    · rintro second ⟨root, hroot, hpoised⟩
      obtain ⟨hany, hapart⟩ := hadmits root hroot
      exact phases_proper hengine hany hapart second hpoised
  have hrun : Triple setup (Vacant setup compile.world.engine.2 compile.world.currentDirectory)
      (pipeline setup.options).run (fun _ => Proper compile.world.engine.2)
      (fun _ => Proper compile.world.engine.2) := by
    unfold Pipeline.run
    rw [phases_pipeline, List.append_nil]
    refine hphases.bind fun _ => Keeps.triple ?_
    exact Leaves.keeps Leaves.advance fun first second hsame hproper => by
      have hengine : first.world.engine = second.world.engine := congrArg (·.1.1) hsame
      rwa [Proper, ← hengine]
  have hafter := ((reset_vacant hengine).bind fun _ => hrun) compile ⟨hexact, rfl, rfl⟩
  unfold runPhases
  split <;> rename_i hresult <;> rw [hresult] at hafter <;> exact hafter

end Compiler

/-! ## Sequences of compiles -/

/-- The sessions that a compiler gets into by compiles of admitted inputs, starting with nothing
installed. Between compiles everything outside the compiler may change except what is installed in
the engine. -/
inductive Session.Served (compiler : Compiler (Memory × List (Exchange Memory)) π) :
    Session (Memory × List (Exchange Memory)) π → Prop where
  | start {world : World (Memory × List (Exchange Memory)) π}
      (hinstalled : world.engine.1.installed = []) (hlog : world.engine.2 = []) :
      Served compiler (.start world)
  | compile {session : Session (Memory × List (Exchange Memory)) π}
      (hserved : Served compiler session) (options : Options) (input : Path)
      (hadmits : (compiler.setup options input).Admits session.world.currentDirectory) :
      Served compiler (compiler.compile options input session).2
  | between {session : Session (Memory × List (Exchange Memory)) π}
      (hserved : Served compiler session) {world : World (Memory × List (Exchange Memory)) π}
      (hinstalled : world.engine.1.installed = session.world.engine.1.installed)
      (hlog : world.engine.2 = session.world.engine.2) : Served compiler { session with world }

/-- Every such session is reached by compiles. -/
theorem Session.Served.reached {compiler : Compiler (Memory × List (Exchange Memory)) π}
    {session : Session (Memory × List (Exchange Memory)) π} (h : session.Served compiler) :
    session.Reached compiler Memory.ledger.logged := by
  induction h with
  | start hinstalled _ => exact .start trivial hinstalled
  | compile _ options input _ ih => exact ih.compile options input
  | between _ hinstalled _ ih => exact ih.between ⟨trivial, hinstalled⟩

/-- In every sequence of compiles with an engine in memory, whatever its rules are and whatever it
refuses, the engine is asked only for what it is ready for, as long as no input is a support file or
an output of its own compile: what is installed is new, what is removed is installed, what is
queried or rendered is an installed model, and the transforms and modules of every step are
installed. So no answer complains about the request. -/
theorem requests_are_proper {compiler : Compiler (Memory × List (Exchange Memory)) π}
    (hengine : compiler.engine = logged (inMemory rules))
    {session : Session (Memory × List (Exchange Memory)) π} (hserved : session.Served compiler) :
    ∀ exchange ∈ session.world.engine.2, exchange.Proper Phase.patterns := by
  induction hserved with
  | start _ hlog =>
    rw [Session.start, hlog]
    exact List.forall_mem_nil _
  | @compile session hserved options input hadmits ih =>
    have hkeeps : compiler.engine.KeepsTo Memory.ledger.logged :=
      hengine ▸ Engine.logged_keeps_to (Engine.in_memory_keeps_to rules)
    have hexact : session.begin.Exact Memory.ledger.logged (compiler.setup options input) :=
      hserved.reached.exact hkeeps
    obtain ⟨exchanges, hlog, hproper⟩ := Compiler.run_phases_proper hengine hexact hadmits
    rw [Compiler.engine_compile, hlog]
    exact List.forall_mem_append.2 ⟨ih, hproper⟩
  | between _ _ hlog ih =>
    rw [hlog]
    exact ih

/-- Three compiles of one input. The second one is refused every uninstall, so that the third one
has to remove what both of them have left. -/
theorem requests_are_proper_after_refusal :
    let compiler : Compiler (Memory × List (Exchange Memory)) (List ProgramName) :=
      ⟨logged (inMemory Engine.Sample.rules), Source.lineParser,
        .inDirectory (.ofString "/toolchain")⟩
    let world (refused : Option Engine.Verb) (engine : Memory × List (Exchange Memory)) :
        World (Memory × List (Exchange Memory)) (List ProgramName) :=
      ⟨(⟨engine.1.installed, engine.1.calls, refused⟩, engine.2), [], MutualIncludes.tree, [], [],
        .still⟩
    let compiled (refused : Option Engine.Verb)
        (session : Session (Memory × List (Exchange Memory)) (List ProgramName)) :=
      (compiler.compile .default (.ofString "main.p")
        { session with world := world refused session.world.engine }).2
    let last := compiled none (compiled (some .uninstall)
      (compiled none (.start (world none (.empty, [])))))
    ∀ exchange ∈ last.world.engine.2, exchange.Proper Phase.patterns := by
  intro compiler world compiled last
  have hadmits : (compiler.setup .default (.ofString "main.p")).Admits
      (Path.through MutualIncludes.tree.currentDirectory) := by
    intro root hnamed
    cases MutualIncludes.main_named.symm.trans hnamed
    exact ⟨MutualIncludes.main_apart, by decide +kernel⟩
  have hcompiled (refused : Option Engine.Verb)
      {session : Session (Memory × List (Exchange Memory)) (List ProgramName)}
      (hserved : session.Served compiler) : (compiled refused session).Served compiler := by
    have hbetween : Session.Served compiler
        { session with world := world refused session.world.engine } := hserved.between rfl rfl
    exact hbetween.compile _ _ hadmits
  exact requests_are_proper rfl (hcompiled _ (hcompiled _ (hcompiled _ (.start rfl rfl))))

end MachineCompiler
