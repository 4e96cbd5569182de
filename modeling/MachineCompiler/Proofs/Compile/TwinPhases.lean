import MachineCompiler.Proofs.Compile.TwinEngines

/-!
# Twins and the phases

Every phase keeps compiles twins, wherever it fails. A phase supplies the support modules whose
transforms it uses, installs no support program under another title, and takes everything else from
what twins have in common.
-/

namespace MachineCompiler

open Engine (Memory Program Rules inMemory)
open SupportModule (isAnyIn)
open Action

variable {σ π α β : Type}

/-! ## Rendering -/

namespace Rendering

section Outside

variable {setup : Setup σ π} {start start' : World σ π}

theorem write_file_outside (directory : Path) (appendix : String) (file : Engine.VirtualFile) :
    Steady setup (Outside setup start start') (writeFile directory appendix file) := by
  refine .bind (progress_outside _) fun _ => .bind (in_world_save_outside _ _) fun error => ?_
  cases error with
  | none => exact .bind (modify_product_outside fun _ _ => .inl) fun _ => .pure
  | some reason => exact .bind (add_flag_outside _) fun _ => .pure

theorem write_files_outside (directory : Path) (appendix : String)
    (files : List Engine.VirtualFile) :
    Steady setup (Outside setup start start') (writeFiles directory appendix files) := by
  induction files with
  | nil => exact .pure
  | cons file rest ih =>
    exact .bind (write_file_outside directory appendix file) fun _ => .bind ih fun _ => .pure

end Outside

variable {setup : Setup Memory π} {start start' : World Memory π} {known : List SupportModule}
  {rules : Rules} {program : Program}

/-- Installing a program for a while is steady when what is done in the meantime is. -/
theorem bracket_steady (hengine : setup.engine = inMemory rules)
    (hname : isAnyIn setup.toolchain.supportDirectory program.name = false)
    {body : Action Memory π α} {next : Except Failure α → Action Memory π β}
    (hbody : Steady setup (Twins setup start start' known) body)
    (hnext : ∀ outcome, Steady setup (Twins setup start start' known) (next outcome)) :
    Steady setup (Twins setup start start' known) (do
      installTemporary program
      let outcome ← attempt body
      uninstall [program.name]
      next outcome) :=
  .bind (install_temporary_steady hengine hname) fun _ => .bind hbody.attempt fun outcome =>
    .bind (uninstall_steady hengine hname) fun _ => hnext outcome

theorem render_steady (hengine : setup.engine = inMemory rules)
    (hname : isAnyIn setup.toolchain.supportDirectory program.name = false)
    (renderer appendix : String) :
    Steady setup (Twins setup start start' known) (render program renderer appendix) := by
  have hkeeps := keeps_ledger hengine
  refine .read_bind ?_
  split
  · exact .fail
  · have hrendered : isAnyIn setup.toolchain.supportDirectory
        (withRenderer program renderer).name = false := hname
    refine bracket_steady hengine hrendered (ask_steady (.ask (hkeeps.render _ _)) ?_)
      fun outcome => ?_
    · rw [hengine]
      exact fun _ _ htwins => htwins.inside.engines.render hrendered _
    · refine .bind .of_except fun rendered => steady_of_quiet ?_ ?_
      · refine .bind .add_flags fun _ => .ite ?_ .pure
        exact .bind .output_directory fun directory => write_files_quiet directory appendix _
      · refine .bind (add_flags_outside _) fun _ => .ite ?_ .pure
        exact .bind output_directory_outside fun directory =>
          write_files_outside directory appendix _

end Rendering

/-! ## Phases -/

namespace Phase

section Outside

variable {setup : Setup σ π} {start start' : World σ π}

/-- Twins find and parse the same files. -/
theorem resolve_files_outside (root : ProgramName) :
    Steady setup (Outside setup start start') (resolveFiles root) := by
  refine .read_bind (.in_world fun first second h => ?_)
  obtain ⟨result, parser, parser', hfirst, hsecond, hparsers⟩ :=
    Source.collect_alike first.world.files [] (.start root) .none h.parsers
  have hresolved : Source.resolve first.world.files setup.parser root first.world.parser =
      (result, parser) := hfirst
  have hresolved' : Source.resolve second.world.files setup.parser root second.world.parser =
      (result, parser') := h.files ▸ hsecond
  rw [hresolved, hresolved']
  exact ⟨rfl, { h with parsers := hparsers }⟩

/-- Parsing is steady when the input is no support file. -/
theorem run_parse_outside (hinput : ∀ root,
      ProgramName.resolve start.currentDirectory setup.input = .ok root →
        isAnyIn setup.toolchain.supportDirectory root = false) :
    Steady setup (Outside setup start start') runParse := by
  have failed (flags : List Flag) : Steady setup (Outside setup start start') (parseFailed flags) :=
    .bind (add_flags_outside flags) fun _ => .fail
  refine .read_bind (Parallel.get_bind fun first second h => ?_)
  have hplace : second.world.currentDirectory = start.currentDirectory := by
    rw [World.currentDirectory, ← h.files]
    exact h.place
  dsimp only
  rw [h.place, hplace]
  cases hresolved : ProgramName.resolve start.currentDirectory setup.input with
  | error error => exact failed _
  | ok root =>
    refine Steady.bind (resolve_files_outside root) fun resolution => ?_
    cases resolution with
    | error flags => exact failed flags
    | ok resolution =>
      refine .bind (add_flags_outside _) fun _ => .bind ?_ fun _ => advance_outside _
      refine modify_product_outside fun _ root' hsome => .inr ?_
      obtain rfl := Option.some.inj hsome
      exact hinput root hresolved

theorem parsed_program_outside : Steady setup (Outside setup start start') parsedProgram := by
  refine .bind product_outside fun product => ?_
  split
  · exact .pure
  · exact .fail

theorem record_errors_outside (outcome : Engine.QueryOutcome) (root : ProgramName)
    (patterns : List ErrorPattern) :
    Steady setup (Outside setup start start') (recordErrors outcome root patterns) := by
  induction patterns with
  | nil => exact .pure
  | cons pattern rest ih =>
    exact .bind .of_except fun found => .bind (add_flags_outside _) fun _ => ih

/-- The model compiler sees the same files and is told the same. -/
theorem compile_model_outside (source target : String) :
    Steady setup (Outside setup start start') (compileModel source target) := by
  have found : Steady setup (Outside setup start start')
      (runModelCompiler setup source target) := by
    refine .bind output_directory_outside fun directory => .bind (progress_outside _) fun _ => ?_
    refine .bind (launch_outside _ _) fun report => .bind .of_except fun report => ?_
    exact .ite (.bind product_outside fun _ => .bind (add_flag_outside _) fun _ => .fail) .pure
  refine .read_bind (Parallel.get_bind fun first second h => ?_)
  rw [h.files]
  exact Steady.ite (.bind .fail fun _ => found) found

end Outside

variable {setup : Setup Memory π} {start start' : World Memory π} {known : List SupportModule}
  {rules : Rules}

/-- Twins use the transforms of one support module in the same way. -/
theorem support_reference_bind {module : SupportModule} {next : Engine.ModuleRef → Action Memory π α}
    (h : Steady setup (Twins setup start start' known)
      (next (module.reference setup.toolchain.supportDirectory))) :
    Steady setup (Twins setup start start' known) (supportReference module >>= next) :=
  h

/-- What follows the supply of support modules can rely on them. -/
theorem ensure_support_bind (hengine : setup.engine = inMemory rules)
    {modules : List SupportModule} {next : Action Memory π α}
    (h : Steady setup (Twins setup start start' (modules ++ known)) next) :
    Steady setup (Twins setup start start' known) (ensureSupport modules >>= fun _ => next) := by
  have hfewer {first second : Compile Memory π}
      (htwins : Twins setup start start' (modules ++ known) first second) :
      Twins setup start start' known first second :=
    htwins.mono fun module hmodule => List.mem_append_right modules hmodule
  exact Parallel.bind (ensure_support_twins hengine modules) fun _ =>
    h.mono (fun _ _ => id) (fun _ _ _ => hfewer) fun _ _ => hfewer

theorem run_install_steady (hengine : setup.engine = inMemory rules) :
    Steady setup (Twins setup start start' known) runInstall := by
  refine .read_bind (ensure_support_bind hengine ?_)
  refine root_twins.steady_bind fun root hroot => support_reference_bind ?_
  refine .bind (steady_of_quiet parsed_program_quiet parsed_program_outside) fun program => ?_
  refine .bind product_steady fun product => ?_
  have installed {program : Program}
      (hname : isAnyIn setup.toolchain.supportDirectory program.name = false) :
      Steady setup (Twins setup start start' ([.sourceDomain] ++ known))
        (do installProduct program; advance .modelInstalled) :=
    .bind (install_temporary_steady hengine hname) fun _ => advance_steady _
  refine .ite (.bind output_directory_steady fun directory => ?_) (installed hroot)
  exact .bind (save_steady _ _) fun _ => installed hroot

theorem run_check_with_steady (hengine : setup.engine = inMemory rules)
    (patterns : List ErrorPattern) :
    Steady setup (Twins setup start start' known) (runCheckWith patterns) := by
  have hkeeps := keeps_ledger hengine
  refine .read_bind (root_twins.steady_bind fun root hroot => .bind product_steady fun product => ?_)
  refine .bind (ask_steady (.ask (hkeeps.query _ _ _)) ?_) fun outcome => ?_
  · rw [hengine]
    exact fun _ _ htwins => htwins.inside.engines.query hroot _ _
  · refine .bind (add_flags_steady _) fun _ => .bind (steady_of_quiet
      (record_errors_passive outcome root patterns).gentle.quiet
      (record_errors_outside outcome root patterns)) fun _ => ?_
    have concluded : Steady setup (Twins setup start start' known) (do
        if outcome.conclusion ≠ .holds ∨ (← Action.product).diagnostics.hasErrors then
          Action.fail (.phase "check")
        Action.advance .checked) :=
      .bind product_steady fun _ =>
        .ite (.bind .fail fun _ => advance_steady _) (advance_steady _)
    refine .ite (.bind .of_except fun found => ?_) concluded
    exact .bind (add_flags_steady _) fun _ => concluded

theorem lower_link_steady (hengine : setup.engine = inMemory rules)
    (hknown : .linkTransform ∈ known) (descriptor : Engine.ModuleRef) :
    Steady setup (Twins setup start start' known) (lowerLink descriptor) := by
  refine .bind product_steady fun product => support_reference_bind ?_
  refine .bind (apply_steady hengine hknown _ _) fun result => ?_
  exact (extract_twins result _).steady_bind fun program hname =>
    Rendering.render_steady hengine hname _ _

theorem link_steady (hengine : setup.engine = inMemory rules) (hknown : .linkTransform ∈ known)
    {program : Program}
    (hname : isAnyIn setup.toolchain.supportDirectory program.name = false) :
    Steady setup (Twins setup start start' known) (link program) := by
  have hsetting : isAnyIn setup.toolchain.supportDirectory
      (program.withSetting Engine.keepLineNumbers "TRUE").name = false := hname
  exact Rendering.bracket_steady hengine hsetting (lower_link_steady hengine hknown _)
    fun _ => .of_except

theorem run_generate_c_steady (hengine : setup.engine = inMemory rules) :
    Steady setup (Twins setup start start' known) runGenerateC := by
  refine .read_bind (ensure_support_bind hengine ?_)
  refine .bind product_steady fun product => support_reference_bind ?_
  refine .bind root_reference_steady fun root => .bind output_base_steady fun base => ?_
  refine .bind (apply_steady hengine (by simp) _ _) fun result => ?_
  refine (extract_twins result _).steady_bind fun cProgram hname => ?_
  refine .bind (Rendering.render_steady hengine hname _ _) fun rendered => ?_
  refine (extract_twins result _).steady_bind fun linkProgram hname => ?_
  refine .bind output_directory_steady fun directory => ?_
  dsimp only
  refine .bind (save_steady _ _) fun _ => ?_
  refine .bind (link_steady hengine (by simp) hname) fun linked => ?_
  exact .ite (.bind .fail fun _ => advance_steady _) (advance_steady _)

theorem install_typed_model_steady (hengine : setup.engine = inMemory rules) :
    Steady setup (Twins setup start start' known) installTypedModel := by
  refine ensure_support_bind hengine (.bind product_steady fun product => ?_)
  refine support_reference_bind (.bind root_reference_steady fun root => ?_)
  refine .bind (apply_steady hengine (by simp) _ _) fun result => ?_
  refine (extract_with_twins _ _ result).steady_bind fun program hname => ?_
  have hsetting : isAnyIn setup.toolchain.supportDirectory
      (program.withSetting Engine.keepLineNumbers "TRUE").name = false := hname
  exact .bind (install_temporary_steady hengine hsetting) fun _ => .pure

theorem run_generate_verification_steady (hengine : setup.engine = inMemory rules) :
    Steady setup (Twins setup start start' known) runGenerateVerification := by
  refine .read_bind (.bind (install_typed_model_steady hengine) fun typed => ?_)
  refine ensure_support_bind hengine (.bind output_base_steady fun base => ?_)
  refine .bind product_steady fun product => support_reference_bind ?_
  refine .bind root_reference_steady fun root => ?_
  refine .bind (apply_steady hengine (by simp) _ _) fun result => ?_
  refine (extract_twins result _).steady_bind fun program hname => ?_
  -- The whole state is read here, but only for the files, which twins share.
  refine Parallel.get_bind fun first second htwins => ?_
  rw [htwins.outside.files]
  refine Steady.bind .of_except fun appendix => ?_
  refine .bind (Rendering.render_steady hengine hname _ _) fun rendered => ?_
  have compiled : Steady setup
      (Twins setup start start' ([.verificationDomain, .verificationTransform] ++ known)) (do
        compileModel (base ++ ".zing") (base ++ ".dll")
        Action.advance .verificationTargetGenerated) :=
    .bind (steady_of_quiet (compile_model_quiet _ _) (compile_model_outside _ _))
      fun _ => advance_steady _
  exact .ite (.bind .fail fun _ => compiled) compiled

end Phase

end MachineCompiler
