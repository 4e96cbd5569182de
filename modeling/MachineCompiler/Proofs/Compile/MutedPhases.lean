import MachineCompiler.Engine.InMemory
import MachineCompiler.Proofs.Compile.Muting
import MachineCompiler.Proofs.Compile.Tracking

/-!
# Phases with the sound off

Under options that differ in what is reported only, every phase keeps two compiles abreast. The
check is the phase that looks at one of these options: it may ask for the inferred types, which a
search of an engine in memory always yields, and the flags that report them are no errors.
-/

namespace MachineCompiler

open Action
open Engine (Memory Rules inMemory)

variable {σ π α β : Type} {setup setup' : Setup σ π} {profile shortNames printTypes : Bool}

/-! ## Rendering -/

namespace Rendering

theorem write_file_abreast {directory : Path} {appendix : String} {file : Engine.VirtualFile} :
    StaysAbreast setup setup' (writeFile directory appendix file)
      (writeFile directory appendix file) := by
  refine .bind .progress fun _ => .bind .in_world_save fun error => ?_
  cases error with
  | none => exact .bind (.modify_product fun _ _ => rfl) fun _ => .pure
  | some reason => exact .bind .add_flag fun _ => .pure

theorem write_files_abreast {directory : Path} {appendix : String}
    {files : List Engine.VirtualFile} :
    StaysAbreast setup setup' (writeFiles directory appendix files)
      (writeFiles directory appendix files) := by
  induction files with
  | nil => exact .pure
  | cons file rest ih => exact .bind write_file_abreast fun _ => .bind ih fun _ => .pure

theorem render_abreast {program : Engine.Program} {renderer appendix : String} :
    StaysAbreast setup (setup.reporting profile shortNames printTypes)
      (render program renderer appendix) (render program renderer appendix) := by
  refine .read_bind ?_
  cases program.models.head? with
  | none => exact .fail
  | some model =>
    refine .bind .install_temporary fun _ => .bind (.attempt .ask) fun outcome => ?_
    refine .bind .uninstall fun _ => .bind .of_except fun rendered => .bind .add_flags fun _ => ?_
    exact .ite (.bind .output_directory fun directory => write_files_abreast) .pure

end Rendering

/-! ## Phases -/

namespace Phase

theorem run_parse_abreast :
    StaysAbreast setup (setup.reporting profile shortNames printTypes) runParse runParse := by
  have failed (flags : List Flag) : StaysAbreast setup
      (setup.reporting profile shortNames printTypes) (parseFailed flags) (parseFailed flags) :=
    .bind .add_flags fun _ => .fail
  refine .read_bind (.get_bind fun compile _ _ _ _ => ?_)
  dsimp only [Compile.sounding, World.currentDirectory, Setup.reporting]
  cases ProgramName.resolve (Path.through compile.world.files.currentDirectory) setup.input with
  | error error => exact failed _
  | ok root =>
    refine .bind (.read_bind (.in_world fun _ _ _ => rfl)) fun resolution => ?_
    cases resolution with
    | error flags => exact failed flags
    | ok resolution =>
      exact .bind .add_flags fun _ => .bind (.modify_product fun _ _ => rfl) fun _ => .advance

theorem run_install_abreast :
    StaysAbreast setup (setup.reporting profile shortNames printTypes) runInstall runInstall := by
  have parsed : StaysAbreast setup (setup.reporting profile shortNames printTypes) parsedProgram
      parsedProgram := by
    refine .product_bind fun product _ _ => ?_
    cases product.program with
    | none => exact .fail
    | some program => exact .pure
  refine .read_bind (.bind .ensure_support fun _ => .bind .root fun root => ?_)
  refine .bind .support_reference fun domain => .bind parsed fun program => ?_
  refine .product_bind fun product _ _ => ?_
  exact .ite (.bind .output_directory fun _ => .bind .save fun _ =>
    .bind .install_temporary fun _ => .advance) (.bind .install_temporary fun _ => .advance)

theorem record_errors_abreast {outcome : Engine.QueryOutcome} {root : ProgramName}
    {patterns : List ErrorPattern} :
    StaysAbreast setup setup' (recordErrors outcome root patterns)
      (recordErrors outcome root patterns) := by
  induction patterns with
  | nil => exact .pure
  | cons pattern rest ih => exact .bind .of_except fun found => .bind .add_flags fun _ => ih

/-- Inferred types are reported by flags that tell inferred types. -/
theorem is_inferred_type_of_mem {proof : Engine.Proof} {flag : Flag}
    (h : flag ∈ typeFlagsOf proof) : flag.isInferredType = true := by
  unfold typeFlagsOf at h
  split at h
  · nomatch h
  · obtain ⟨span, -, rfl⟩ := List.mem_map.1 h
    simp [flagAt, Flag.isInferredType, String.toList_append]

/-- An engine in memory answers a query with a verdict. -/
theorem query_answer {rules : Rules} {name : ProgramName} {module : String} {goals : List String}
    {memory : Memory} {outcome : Engine.QueryOutcome}
    (h : ((inMemory rules).query name module goals memory).1 = .ok outcome) :
    ∃ verdict, outcome = Memory.answer verdict := by
  simp only [inMemory, Memory.start] at h
  split at h
  · contradiction
  · cases hmodel : Memory.modelOf (memory.record (.query name module)) name module with
    | error error => rw [hmodel] at h; contradiction
    | ok model =>
      rw [hmodel] at h
      exact ⟨rules.check model, (Except.ok.inj h).symm⟩

/-- The search of an engine in memory for inferred types succeeds and has no messages of its own. -/
theorem type_flags_of_answer (verdict : Engine.Verdict) :
    ∃ found, (Memory.answer verdict).enumerate typePattern 1 = .ok found ∧
      ∀ flag ∈ typeFlags found, flag.isInferredType = true := by
  have hread : Engine.Pattern.read typePattern = .ok ⟨"TypeOf", ["_", "_", "_"]⟩ := rfl
  obtain ⟨proofs, hfound⟩ :
      ∃ proofs, (Memory.answer verdict).enumerate typePattern 1 = .ok ⟨proofs, []⟩ := by
    simp only [Memory.answer, Engine.enumerate, hread]
    exact ⟨_, rfl⟩
  refine ⟨_, hfound, fun flag hflag => ?_⟩
  rw [typeFlags, List.append_nil] at hflag
  obtain ⟨proof, -, hproof⟩ := List.mem_flatMap.1 hflag
  exact is_inferred_type_of_mem hproof

/-- Report the inferred types on demand, and go on. -/
def reportTypes (wanted : Bool) (outcome : Engine.QueryOutcome) (next : Action σ π α) :
    Action σ π α :=
  if wanted then do
    let found ← proofsOf outcome typePattern
    Action.addFlags (typeFlags found)
    next
  else next

/-- What is reported about inferred types makes no difference to what follows. -/
theorem report_types_abreast {wanted wanted' : Bool} {outcome : Engine.QueryOutcome}
    {next next' : Action σ π α} {found : Engine.Enumeration}
    (hfound : outcome.enumerate typePattern 1 = .ok found)
    (hflags : ∀ flag ∈ typeFlags found, flag.isInferredType = true)
    (h : StaysAbreast setup setup' next next') :
    StaysAbreast setup setup' (reportTypes wanted outcome next)
      (reportTypes wanted' outcome next') := by
  have hrun (wanted : Bool) (setup : Setup σ π) (next : Action σ π α) (compile : Compile σ π) :
      (reportTypes wanted outcome next).run setup compile =
        next.run setup { compile with product := { compile.product with
          diagnostics := compile.product.diagnostics.addAll
            (if wanted then typeFlags found else []) } } := by
    cases wanted with
    | false => rfl
    | true =>
      show Action.run (proofsOf outcome typePattern >>= _) _ _ = _
      rw [proofsOf, hfound]
      rfl
  have hinferred (wanted : Bool) :
      ∀ flag ∈ if wanted then typeFlags found else [], flag.isInferredType = true := by
    cases wanted with
    | false => exact List.forall_mem_nil _
    | true => exact hflags
  intro start start' first second habreast
  rw [hrun, hrun]
  refine h start start' _ _ {
    muted := ?_
    ascending := habreast.ascending.add_all
    ascending' := habreast.ascending'.add_all
    transcripts := habreast.transcripts }
  simp only [Compile.muted, Product.muted,
    habreast.ascending.without_types_add_all (hinferred wanted),
    habreast.ascending'.without_types_add_all (hinferred wanted')]
  exact habreast.muted

/-- An engine in memory is asked about inferred types, or is not, and the check ends alike. -/
theorem run_check_abreast {setup : Setup Memory π} {rules : Rules}
    (hengine : setup.engine = inMemory rules) :
    StaysAbreast setup (setup.reporting profile shortNames printTypes) runCheck runCheck := by
  refine .read_bind (.bind .root fun root => .product_bind fun product _ _ => ?_)
  refine .ask_bind fun outcome state hanswer => ?_
  refine .bind .add_flags fun _ => .bind record_errors_abreast fun _ => ?_
  rw [hengine] at hanswer
  obtain ⟨verdict, rfl⟩ := query_answer hanswer
  obtain ⟨found, hfound, hflags⟩ := type_flags_of_answer verdict
  refine report_types_abreast hfound hflags (.product_bind fun product diagnostics herrors => ?_)
  dsimp only
  rw [herrors]
  exact .ite (.bind .fail fun _ => .advance) .advance

theorem lower_link_abreast {descriptor : Engine.ModuleRef} :
    StaysAbreast setup (setup.reporting profile shortNames printTypes) (lowerLink descriptor)
      (lowerLink descriptor) := by
  refine .product_bind fun product _ _ => .bind .support_reference fun transform => ?_
  exact .bind .apply fun result => .bind .extract_with fun program => Rendering.render_abreast

theorem link_abreast {program : Engine.Program} :
    StaysAbreast setup (setup.reporting profile shortNames printTypes) (link program)
      (link program) :=
  .bind .install_temporary fun _ => .bind (.attempt lower_link_abreast) fun _ =>
    .bind .uninstall fun _ => .of_except

theorem run_generate_c_abreast :
    StaysAbreast setup (setup.reporting profile shortNames printTypes) runGenerateC
      runGenerateC := by
  refine .read_bind (.bind .ensure_support fun _ => .product_bind fun product _ _ => ?_)
  refine .bind .support_reference fun transform => .bind .root_reference fun root => ?_
  refine .bind .output_base fun base => .bind .apply fun result => ?_
  refine .bind .extract_with fun cProgram => .bind Rendering.render_abreast fun rendered => ?_
  refine .bind .extract_with fun linkProgram => .bind .output_directory fun directory => ?_
  refine .bind .save fun _ => .bind link_abreast fun linked => ?_
  exact .ite (.bind .fail fun _ => .advance) .advance

theorem install_typed_model_abreast :
    StaysAbreast setup (setup.reporting profile shortNames printTypes) installTypedModel
      installTypedModel := by
  refine .bind .ensure_support fun _ => .product_bind fun product _ _ => ?_
  refine .bind .support_reference fun transform => .bind .root_reference fun root => ?_
  refine .bind .apply fun result => .bind .extract_with fun program => ?_
  exact .bind .install_temporary fun _ => .pure

theorem compile_model_abreast {source target : String} :
    StaysAbreast setup (setup.reporting profile shortNames printTypes)
      (compileModel source target) (compileModel source target) := by
  have found : StaysAbreast setup (setup.reporting profile shortNames printTypes)
      (runModelCompiler setup source target)
      (runModelCompiler (setup.reporting profile shortNames printTypes) source target) := by
    refine .bind .output_directory fun directory => .bind .progress fun _ => ?_
    refine .bind .launch fun report => .bind .of_except fun report => ?_
    exact .ite (.product_bind fun product _ _ => .bind .add_flag fun _ => .fail) .pure
  exact .read_bind (.get_bind fun _ _ _ _ _ => .ite (.bind .fail fun _ => found) found)

theorem run_generate_verification_abreast :
    StaysAbreast setup (setup.reporting profile shortNames printTypes) runGenerateVerification
      runGenerateVerification := by
  refine .read_bind (.bind install_typed_model_abreast fun typed => ?_)
  refine .bind .ensure_support fun _ => .bind .output_base fun base => ?_
  refine .product_bind fun product _ _ => ?_
  refine .bind .support_reference fun transform => .bind .root_reference fun root => ?_
  refine .bind .apply fun result => .bind .extract_with fun program => ?_
  refine .get_bind fun _ _ _ _ _ => .bind .of_except fun appendix => ?_
  refine .bind Rendering.render_abreast fun rendered => ?_
  exact .ite (.bind .fail fun _ => .bind compile_model_abreast fun _ => .advance)
    (.bind compile_model_abreast fun _ => .advance)

end Phase

end MachineCompiler
