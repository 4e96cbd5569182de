import MachineCompiler.Engine.InMemory
import MachineCompiler.Proofs.Compile.GoodOrder
import MachineCompiler.Proofs.Compile.Tracking

/-!
# The verdict of a compile

A compile ends done or failed, and it is done exactly when it has written no error. Every phase is
entered at a stage from which it may move on, so a move is never refused; whatever records an error
also fails its phase, at the latest in the check; and beside the flags, which are written at the
end and in order, there are only messages about progress.
-/

namespace MachineCompiler

open Action

variable {σ π α β : Type} {setup : Setup σ π} {before : Transcript} {K L : Knowledge}

/-- The engine has nothing to say about transforms, and nothing about what it could render. -/
structure ModelEngine.Terse (engine : ModelEngine σ) : Prop where
  apply : ∀ step state result, (engine.apply step state).1 = .ok result → result.flags = []
  render : ∀ program module state result,
    (engine.render program module state).1 = .ok result → result.succeeded = true →
      result.flags = []

/-- Something is known if the answer is yes. -/
def Granted (K : Knowledge) (answer : Bool) : Knowledge :=
  fun stage diagnostics => answer = true → K stage diagnostics

/-! ## Transforms and renderings -/

/-- A transform that says nothing changes nothing that is told. -/
theorem Action.apply_orderly (h : setup.engine.Terse) (step : Engine.Step) :
    Orderly setup (apply step : Action σ π Engine.ApplyResult) := by
  refine fun before K => .read_bind ((ask_leads _ _).bind fun result => ?_)
  refine (add_flags_leads (L := K) result.flags fun stage diagnostics hknown => ?_).bind fun _ =>
    .pure fun _ _ => id
  obtain ⟨hknown, state, hanswer⟩ := hknown
  rw [h.apply step state result hanswer]
  exact hknown

namespace Rendering

/-- What is recorded while a file is written is recorded because it was not written. -/
theorem write_file_leads (directory : Path) (appendix : String) (file : Engine.VirtualFile) :
    Leads setup before K (writeFile directory appendix file) (Granted K) := by
  refine .after .progress fun _ => .after (Calm.in_world (fun world => world.engine_save)
    fun world => world.transcript_save).orderly fun error => ?_
  cases error with
  | none => exact .after (.modify fun _ => rfl) fun _ => .pure fun _ _ hknown _ => hknown
  | some reason =>
    refine (add_flag_leads (L := fun _ _ => True) _ fun _ _ _ => trivial).bind fun _ => .pure ?_
    exact fun _ _ _ hwritten => by contradiction

theorem write_files_leads (directory : Path) (appendix : String)
    (files : List Engine.VirtualFile) :
    Leads setup before K (writeFiles directory appendix files) (Granted K) := by
  induction files generalizing K with
  | nil => exact .pure fun _ _ hknown _ => hknown
  | cons file rest ih =>
    refine (write_file_leads directory appendix file).bind fun written => ih.bind fun others => ?_
    refine .pure fun _ _ hknown hall => ?_
    obtain ⟨hwritten, hothers⟩ := Bool.and_eq_true_iff.1 hall
    exact hknown hothers hwritten

/-- A program that is installed for a while is removed again, whatever came of it. -/
theorem bracket_leads {program : Engine.Program} {body : Action σ π α}
    {next : Except Failure α → Action σ π β} {known : α → Knowledge} {later : β → Knowledge}
    (hbody : Leads setup before K body known)
    (hnext : ∀ value, Leads setup before (known value) (next (.ok value)) later)
    (hfailed : ∀ failure compile, compile.Broken before failure →
      After (fun value => Compile.Stands before (later value)) (Compile.Broken before)
        ((next (.error failure)).run setup compile)) :
    Leads setup before K (do
      installTemporary program
      let outcome ← attempt body
      uninstall [program.name]
      next outcome) later := by
  -- While the program is removed, all that is known after a failure is that it is regular.
  have hattempt : Leads setup before K (attempt body) fun outcome =>
      match outcome with
      | .ok value => known value
      | .error failure => fun _ _ => failure.Regular := by
    refine ⟨fun compile hstands => ?_⟩
    have hafter := hbody.triple compile hstands
    rw [run_attempt]
    rcases hrun : body.run setup compile with ⟨failure | value, after⟩ <;> rw [hrun] at hafter
    · exact ⟨hafter.talks, hafter.ascending, hafter.regular⟩
    · exact hafter
  refine .after .install_temporary fun _ => hattempt.bind fun outcome => ?_
  cases outcome with
  | ok value => exact .after .uninstall fun _ => hnext value
  | error failure =>
    refine .after .uninstall fun _ => ⟨fun compile hstands => ?_⟩
    exact hfailed failure compile (hstands.broken hstands.known)

/-- A rendering that succeeds has nothing to say; one that does not may say anything. -/
theorem record_rendered_leads {rendered : Engine.RenderResult} (appendix : String)
    (hflags : rendered.succeeded = true → rendered.flags = []) :
    Leads setup before K (do
        addFlags rendered.flags
        if rendered.succeeded then writeFiles (← outputDirectory) appendix rendered.files
        else return false)
      (Granted K) := by
  cases hsucceeded : rendered.succeeded with
  | true =>
    rw [hflags hsucceeded, if_pos rfl]
    refine (add_flags_leads (L := K) [] fun _ _ hknown => hknown).bind fun _ => ?_
    exact .after Calm.output_directory.orderly fun directory =>
      write_files_leads directory appendix rendered.files
  | false =>
    rw [if_neg Bool.false_ne_true]
    refine (add_flags_leads (L := fun _ _ => True) _ fun _ _ _ => trivial).bind fun _ => ?_
    exact .pure fun _ _ _ hanswer => by contradiction

theorem render_leads (h : setup.engine.Terse) (program : Engine.Program)
    (renderer appendix : String) :
    Leads setup before K (render program renderer appendix) (Granted K) := by
  refine .read_bind ?_
  split
  · exact .fail (by simp [Failure.Regular])
  · refine bracket_leads (ask_leads _ _) (fun rendered => ⟨fun compile hstands => ?_⟩)
      fun _ _ hbroken => hbroken
    obtain ⟨-, state, hanswer⟩ := hstands.known
    exact (record_rendered_leads appendix (h.render _ _ state rendered hanswer)).triple compile
      (hstands.mono fun _ _ => And.left)

end Rendering

namespace Phase

/-! ## Phases -/

/-- The stage is `stage`. -/
def AtStage (stage : Stage) : Knowledge :=
  fun current _ => current = stage

/-- The stage is one of `stages`, and no error is recorded. -/
def Passed (stages : List Stage) : Knowledge :=
  fun stage diagnostics => stage ∈ stages ∧ diagnostics.hasErrors = false

theorem add_flags_at (flags : List Flag) {stage : Stage} :
    Leads setup before (AtStage stage) (addFlags flags) fun _ => AtStage stage :=
  add_flags_leads flags fun _ _ hknown => hknown

/-- A move goes where the order of stages leads. -/
theorem advance_at {stage next : Stage} (h : stage.leadsTo next = true) :
    Leads setup before (AtStage stage) (advance next) fun _ => AtStage next :=
  advance_leads fun current _ hknown => ⟨by rw [show current = stage from hknown, h], rfl⟩

/-- A move does not record an error. -/
theorem advance_passed {stages later : List Stage} {next : Stage}
    (h : ∀ stage ∈ stages, stage.leadsTo next = true) (hnext : next ∈ later) :
    Leads setup before (Passed stages) (advance next) fun _ => Passed later :=
  advance_leads fun stage _ hpassed => ⟨h stage hpassed.1, hnext, hpassed.2⟩

theorem parse_failed_leads (flags : List Flag) {known : Unit → Knowledge} :
    Leads setup before K (parseFailed flags) known :=
  (add_flags_leads (L := fun _ _ => True) flags fun _ _ _ => trivial).bind fun _ =>
    .fail (by simp [Failure.Regular])

theorem run_parse_leads :
    Leads setup before (AtStage .idle) (runParse : Action σ π Unit) fun _ => AtStage .parsed := by
  refine .read_bind (.after Calm.get.orderly fun compile => ?_)
  dsimp only
  split
  · exact parse_failed_leads _
  · refine .after Calm.resolve_files.orderly fun outcome => ?_
    split
    · exact parse_failed_leads _
    · refine (add_flags_at _).bind fun _ => ?_
      exact .after (.modify fun _ => rfl) fun _ => advance_at rfl

theorem run_install_leads :
    Leads setup before (AtStage .parsed) (runInstall : Action σ π Unit)
      fun _ => AtStage .modelInstalled := by
  have installed {program : Engine.Program} : Leads setup before (AtStage .parsed)
      (do installProduct program; advance .modelInstalled : Action σ π Unit)
      fun _ => AtStage .modelInstalled :=
    .after .install_product fun _ => advance_at rfl
  refine .read_bind (.after .ensure_support fun _ => .after Calm.root.orderly fun root => ?_)
  refine .after Calm.support_reference.orderly fun domain => ?_
  refine .after Calm.parsed_program.orderly fun program => ?_
  refine .after Calm.product.orderly fun product => ?_
  refine .ite (.after Calm.output_directory.orderly fun directory => ?_) installed
  exact .after Calm.save.orderly fun _ => installed

/-- Recording the errors that were found does not change the stage. -/
theorem record_errors_leads (outcome : Engine.QueryOutcome) (root : ProgramName)
    (patterns : List ErrorPattern) {stage : Stage} :
    Leads setup before (AtStage stage) (recordErrors outcome root patterns)
      fun _ => AtStage stage := by
  induction patterns with
  | nil => exact .pure fun _ _ => id
  | cons pattern rest ih =>
    refine .after (Calm.of_except (by simp [Failure.Regular])).orderly fun found => ?_
    exact (add_flags_at _).bind fun _ => ih

/-- The check passes only when no error is recorded. -/
theorem run_check_leads :
    Leads setup before (AtStage .modelInstalled) (runCheck : Action σ π Unit)
      fun _ => Passed [.checked] := by
  have concluded (outcome : Engine.QueryOutcome) : Leads setup before (AtStage .modelInstalled)
      (do
        if outcome.conclusion ≠ .holds ∨ (← Action.product).diagnostics.hasErrors then
          Action.fail (.phase "check")
        Action.advance .checked : Action σ π Unit)
      fun _ => Passed [.checked] := by
    refine ⟨fun compile hstands => ?_⟩
    show After _ _ (Action.run (if _ ∨ compile.product.diagnostics.hasErrors = true then
      (Action.fail _ >>= fun _ => advance .checked) else advance .checked) setup compile)
    split
    · exact hstands.broken (by simp [Failure.Regular])
    · rename_i hpassed
      have hspotless : compile.product.diagnostics.hasErrors = false := by simp_all
      have hknown : compile.Stands before (Passed [.modelInstalled]) :=
        ⟨hstands.talks, hstands.ascending, List.mem_singleton.2 hstands.known, hspotless⟩
      exact (advance_passed (by simp [Stage.leadsTo]) (.head _)).triple compile hknown
  refine .read_bind (.after Calm.root.orderly fun root => ?_)
  refine .after Calm.product.orderly fun product => ?_
  refine .after .ask fun outcome => (add_flags_at _).bind fun _ => ?_
  refine (record_errors_leads outcome root errorPatterns).bind fun _ => ?_
  refine .ite ?_ (concluded outcome)
  refine .after (Calm.of_except (by simp [Failure.Regular])).orderly fun found => ?_
  exact (add_flags_at _).bind fun _ => concluded outcome

/-- A phase that asks for an answer moves on only if the answer is yes. -/
theorem granted_leads {answer : Bool} {next : Action σ π Unit} {known : Unit → Knowledge}
    {phase : String} (h : Leads setup before K next known) :
    Leads setup before (Granted K answer) (do
        if !answer then Action.fail (.phase phase)
        next : Action σ π Unit)
      known := by
  cases answer with
  | true => exact h.mono (fun _ _ hknown => hknown rfl) fun _ _ _ => id
  | false => exact .bind (.fail (by simp [Failure.Regular])) fun _ => h

theorem lower_link_leads (h : setup.engine.Terse) (descriptor : Engine.ModuleRef) :
    Leads setup before K (lowerLink descriptor) (Granted K) := by
  refine .after Calm.product.orderly fun product => ?_
  refine .after Calm.support_reference.orderly fun transform => ?_
  refine .after (apply_orderly h _) fun result => .after Calm.extract_with.orderly fun program => ?_
  exact Rendering.render_leads h program cRenderer ""

theorem link_leads (h : setup.engine.Terse) (program : Engine.Program) :
    Leads setup before K (link program) (Granted K) :=
  Rendering.bracket_leads (lower_link_leads h _) (fun _ => ⟨fun _ hstands => hstands⟩)
    fun _ _ hbroken => hbroken

theorem run_generate_c_leads (h : setup.engine.Terse) :
    Leads setup before (Passed [.checked]) (runGenerateC : Action σ π Unit)
      fun _ => Passed [.cTargetGenerated] := by
  refine .read_bind (.after .ensure_support fun _ => .after Calm.product.orderly fun product => ?_)
  refine .after Calm.support_reference.orderly fun transform => ?_
  refine .after Calm.root_reference.orderly fun root => ?_
  refine .after Calm.output_base.orderly fun base => .after (apply_orderly h _) fun result => ?_
  refine .after Calm.extract_with.orderly fun cProgram => ?_
  refine (Rendering.render_leads h cProgram _ _).bind fun rendered => ?_
  refine .after Calm.extract_with.orderly fun linkProgram => ?_
  refine .after Calm.output_directory.orderly fun directory => .after Calm.save.orderly fun _ => ?_
  refine (link_leads h linkProgram).bind fun linked => ?_
  have hmoved : Leads setup before (Passed [.checked]) (advance .cTargetGenerated)
      fun _ => Passed [.cTargetGenerated] := advance_passed (by simp [Stage.leadsTo]) (.head _)
  refine (granted_leads hmoved).mono (fun _ _ hknown hall => ?_) fun _ _ _ => id
  obtain ⟨hrendered, hlinked⟩ := Bool.and_eq_true_iff.1 hall
  exact hknown hlinked hrendered

theorem install_typed_model_orderly (h : setup.engine.Terse) :
    Orderly setup (installTypedModel : Action σ π Engine.ModuleRef) := by
  refine .bind .ensure_support fun _ => .bind Calm.product.orderly fun product => ?_
  refine .bind Calm.support_reference.orderly fun transform => ?_
  refine .bind Calm.root_reference.orderly fun root => .bind (apply_orderly h _) fun result => ?_
  refine .bind Calm.extract_with.orderly fun program => ?_
  exact .bind .install_product fun _ => .pure

/-- The model compiler is complained about only when it fails. -/
theorem compile_model_orderly (source target : String) :
    Orderly setup (compileModel source target : Action σ π Unit) := by
  have found : Orderly setup (runModelCompiler setup source target) := by
    refine .bind Calm.output_directory.orderly fun directory => .bind .progress fun _ => ?_
    refine .bind (Calm.in_world (fun world => world.engine_launch)
      fun world => world.transcript_launch).orderly fun report => ?_
    refine .bind (Calm.of_except (by simp [Failure.Regular])).orderly fun report => .ite ?_ .pure
    refine .bind Calm.product.orderly fun product before K => ?_
    exact (add_flag_leads (L := fun _ _ => True) _ fun _ _ _ => trivial).bind fun _ =>
      .fail (by simp [Failure.Regular])
  refine .read_bind (.bind Calm.get.orderly fun compile => .ite ?_ found)
  exact .bind (.fail (by simp [Failure.Regular])) fun _ => found

theorem run_generate_verification_leads (h : setup.engine.Terse) {stages : List Stage}
    (hstages : ∀ stage ∈ stages, stage.leadsTo .verificationTargetGenerated = true) :
    Leads setup before (Passed stages) (runGenerateVerification : Action σ π Unit)
      fun _ => Passed [.verificationTargetGenerated] := by
  refine .read_bind (.after (install_typed_model_orderly h) fun typed => ?_)
  refine .after .ensure_support fun _ => .after Calm.output_base.orderly fun base => ?_
  refine .after Calm.product.orderly fun product => ?_
  refine .after Calm.support_reference.orderly fun transform => ?_
  refine .after Calm.root_reference.orderly fun root => .after (apply_orderly h _) fun result => ?_
  refine .after Calm.extract_with.orderly fun program => .after Calm.get.orderly fun compile => ?_
  refine .after (Calm.of_except (by simp [Failure.Regular])).orderly fun appendix => ?_
  refine (Rendering.render_leads h program _ _).bind fun rendered => granted_leads ?_
  exact .after (compile_model_orderly _ _) fun _ => advance_passed hstages (.head _)

end Phase

namespace Pipeline

/-! ## Pipelines -/

/-- What the plugin does before and after a phase is orderly. -/
def Discreet (setup : Setup σ π) (plugin : Plugin σ π) : Prop :=
  ∀ phase before K, Triple setup (Compile.Stands before K) (plugin.before phase)
    (fun after compile => compile.Stands before K ∧ Orderly setup after) (Compile.Broken before)

/-- Telling how long a phase took is about progress. -/
theorem timing_discreet : Discreet setup (Plugin.timing : Plugin σ π) := by
  have clock : Orderly setup (inWorld World.readClock : Action σ π Nat) :=
    (Calm.in_world (fun _ => rfl) fun _ => rfl).orderly
  intro phase before K
  refine (clock before K).triple.bind fun start => .pure fun compile hstands => ⟨hstands, ?_⟩
  exact .bind clock fun stop => .progress

theorem act_before_discreet {plugins : List (Plugin σ π)} (phase : String)
    (h : ∀ plugin ∈ plugins, Discreet setup plugin) :
    Triple setup (Compile.Stands before K) (actBefore phase plugins)
      (fun after compile => compile.Stands before K ∧ ∀ action ∈ after, Orderly setup action)
      (Compile.Broken before) := by
  induction plugins with
  | nil => exact .pure fun compile hstands => ⟨hstands, by simp⟩
  | cons plugin rest ih =>
    obtain ⟨hplugin, hrest⟩ := List.forall_mem_cons.1 h
    refine (hplugin phase before K).bind fun after => .given fun hafter => ?_
    refine (ih hrest).bind fun others => .pure fun compile hothers => ?_
    exact ⟨hothers.1, List.forall_mem_cons.2 ⟨hafter, hothers.2⟩⟩

theorem act_after_orderly {after : List (Action σ π Unit)}
    (h : ∀ action ∈ after, Orderly setup action) : Orderly setup (actAfter after) := by
  induction after with
  | nil => exact .pure
  | cons action rest ih =>
    obtain ⟨haction, hrest⟩ := List.forall_mem_cons.1 h
    exact .bind haction fun _ => ih hrest

/-- A phase does in the company of plugins what it does alone. -/
theorem run_phase_leads {plugins : List (Plugin σ π)} {phase : Phase σ π}
    (hplugins : ∀ plugin ∈ plugins, Discreet setup plugin)
    (hphase : Leads setup before K phase.run fun _ => L) :
    Leads setup before K (runPhase plugins phase) fun _ => L := by
  refine ⟨(act_before_discreet phase.name hplugins).bind fun after => .given fun hafter => ?_⟩
  exact (hphase.bind fun _ => act_after_orderly hafter before L).triple

/-- The first phase of a run, which may be left out if the others can do without it. -/
theorem run_phases_cons {plugins : List (Plugin σ π)} {phase : Phase σ π}
    {rest : List (Phase σ π)} {known : Unit → Knowledge}
    (hplugins : ∀ plugin ∈ plugins, Discreet setup plugin)
    (hphase : Leads setup before K phase.run fun _ => L)
    (hskip : (∀ setup compile, phase.enabled setup compile = true) ∨
      ∀ stage diagnostics, K stage diagnostics → L stage diagnostics)
    (hrest : Leads setup before L (runPhases plugins rest) known) :
    Leads setup before K (runPhases plugins (phase :: rest)) known := by
  have hrun : Leads setup before K (runPhase plugins phase >>= fun _ => runPhases plugins rest)
      known := (run_phase_leads hplugins hphase).bind fun _ => hrest
  refine .read_bind (.after Calm.get.orderly fun compile => ?_)
  rcases hskip with henabled | hskip
  · rw [henabled]
    exact hrun
  · exact .ite hrun (hrest.mono hskip fun _ _ _ => id)

/-- The built-in phases go from the beginning to a checked program, and on from there. -/
theorem built_in_leads (h : setup.engine.Terse) {plugins : List (Plugin σ π)}
    (hplugins : ∀ plugin ∈ plugins, Discreet setup plugin) :
    Leads setup before (Phase.AtStage .idle) (runPhases plugins builtIn) fun _ =>
      Phase.Passed [.checked, .cTargetGenerated, .verificationTargetGenerated] := by
  have hlater {first second : List Stage} (hincluded : first ⊆ second) (stage : Stage)
      (diagnostics : Diagnostics) (hpassed : Phase.Passed first stage diagnostics) :
      Phase.Passed second stage diagnostics := ⟨hincluded hpassed.1, hpassed.2⟩
  refine run_phases_cons hplugins Phase.run_parse_leads (.inl fun _ _ => rfl) ?_
  refine run_phases_cons hplugins Phase.run_install_leads (.inl fun _ _ => rfl) ?_
  refine run_phases_cons hplugins Phase.run_check_leads (.inl fun _ _ => rfl) ?_
  refine run_phases_cons (L := Phase.Passed [.checked, .cTargetGenerated]) hplugins
    ((Phase.run_generate_c_leads h).mono (fun _ _ => id) fun _ => hlater (by simp))
    (.inr (hlater (by simp))) ?_
  refine run_phases_cons hplugins ((Phase.run_generate_verification_leads h ?_).mono
    (fun _ _ => id) fun _ => hlater (by simp)) (.inr (hlater (by simp))) (.pure fun _ _ => id)
  simp [Stage.leadsTo]

end Pipeline

namespace Compiler

/-! ## Compiles -/

/-- A compile begins in good order. -/
theorem start_stands (session : Session σ π) :
    session.begin.Stands session.world.transcript (Phase.AtStage .idle) :=
  ⟨⟨[], by simp, (List.append_nil _).symm⟩, .nil, rfl⟩

/-- A compile that fails nowhere is done, with no error recorded. -/
theorem pipeline_leads (h : setup.engine.Terse) (options : Options) :
    Leads setup before (Phase.AtStage .idle) (do reset; (pipeline options).run : Action σ π Unit)
      fun _ => Phase.Passed [.done] := by
  refine .after (.bind Calm.get.orderly fun _ => .uninstall) fun _ => ?_
  have hrun {plugins : List (Plugin σ π)}
      (hplugins : ∀ plugin ∈ plugins, Pipeline.Discreet setup plugin) :
      Leads setup before (Phase.AtStage .idle) (Pipeline.run ⟨[], plugins⟩)
        fun _ => Phase.Passed [.done] :=
    (Pipeline.built_in_leads h hplugins).bind fun _ =>
      Phase.advance_passed (by simp [Stage.leadsTo]) (.head _)
  unfold pipeline
  split
  · exact hrun (List.forall_mem_singleton.2 Pipeline.timing_discreet)
  · exact hrun (List.forall_mem_nil _)

/-- The move to another stage is never refused. -/
theorem run_regular (h : setup.engine.Terse) {session : Session σ π} {failure : Failure}
    {after : Compile σ π}
    (hrun : (do reset; (pipeline setup.options).run : Action σ π Unit).run setup session.begin
      = (.error failure, after)) : after.Broken session.world.transcript failure := by
  have hleads := (pipeline_leads h setup.options).triple session.begin (start_stands session)
  rwa [hrun] at hleads

/-- A compile ends done and without errors, or failed, and has its messages in order. -/
theorem run_phases_ends (h : setup.engine.Terse) (session : Session σ π) :
    (runPhases setup session.begin).Stands session.world.transcript fun stage diagnostics =>
      stage = .done ∧ diagnostics.hasErrors = false ∨ stage = .failed := by
  have hleads := (pipeline_leads h setup.options).triple session.begin (start_stands session)
  unfold runPhases
  split <;> rename_i hrun <;> rw [hrun] at hleads
  · refine Compile.Stands.mono hleads fun _ _ hpassed => ?_
    exact .inl ⟨List.mem_singleton.1 hpassed.1, hpassed.2⟩
  · refine ⟨hleads.talks, ?_, .inr rfl⟩
    unfold conclude
    split
    · exact hleads.ascending
    · exact hleads.ascending.add

/-- When a compile is done only without errors, it ends with no message of an error exactly when it
is done. -/
theorem done_iff_spotless {layout : FlagLayout} {product : Product}
    (h : product.stage = .done → product.diagnostics.hasErrors = false) :
    product.stage = .done ↔ ∀ message ∈ closing layout product, message.severity ≠ .error := by
  unfold closing
  constructor
  · intro hdone message hmessage
    rw [if_pos hdone, List.append_nil] at hmessage
    obtain ⟨flag, hflag, rfl⟩ := List.mem_map.1 hmessage
    intro herror
    exact List.any_eq_false.1 (h hdone) flag hflag (by simpa [Flag.isError] using herror)
  · intro hmessages
    refine Decidable.byContradiction fun hfailed => ?_
    rw [if_neg hfailed] at hmessages
    exact hmessages _ (List.mem_append_right _ (.head _)) rfl

end Compiler

namespace Engine

/-- Putting models under names says nothing. -/
theorem ApplyResult.flags_with_outputs (models : List Model) (result : ApplyResult) :
    (models.foldl withOutput result).flags = result.flags := by
  induction models generalizing result with
  | nil => rfl
  | cons model rest ih => exact ih _

/-- An operation that was started is answered by the operation. -/
theorem Memory.answer_of_start {verb : Verb} {call : Call}
    {operation : Memory → Except Error α × Memory} {memory : Memory} {answer : α}
    (h : (Memory.start verb call operation memory).1 = .ok answer) :
    ∃ memory, (operation memory).1 = .ok answer := by
  unfold Memory.start at h
  split at h
  · contradiction
  · exact ⟨_, h⟩

/-- An engine in memory passes on the messages of its check only. -/
theorem in_memory_terse (rules : Rules) : (inMemory rules).Terse where
  apply step state result h := by
    obtain ⟨memory, hanswer⟩ := Memory.answer_of_start h
    simp only [Memory.runStep] at hanswer
    split at hanswer
    · contradiction
    · split at hanswer
      · contradiction
      · split at hanswer
        · contradiction
        · cases hanswer
          exact ApplyResult.flags_with_outputs _ _
  render program module state result h hsucceeded := by
    obtain ⟨memory, hanswer⟩ := Memory.answer_of_start h
    simp only [Memory.renderModule] at hanswer
    split at hanswer
    · cases hanswer
      contradiction
    · split at hanswer
      · contradiction
      · split at hanswer <;> cases hanswer
        · rfl
        · contradiction

end Engine

/-- A compile over an engine in memory ends done or failed, and it is never refused a move to
another stage. It succeeds exactly when it ends done, which is exactly when it wrote no error. It
writes messages about its progress, then every recorded flag once and in order, and at last that it
failed if it did. -/
theorem verdict_is_consistent (rules : Engine.Rules) (parser : Source.Parser π)
    (toolchain : Toolchain) (options : Options) (input : Path)
    (session : Session Engine.Memory π) :
    let compiler : Compiler Engine.Memory π := ⟨Engine.inMemory rules, parser, toolchain⟩
    let setup := compiler.setup options input
    let phases : Action Engine.Memory π Unit := do
      Compiler.reset
      (Compiler.pipeline options).run
    let flags := (Compiler.runPhases setup session.begin).product.diagnostics.flags
    let success := (compiler.compile options input session).1
    let after := (compiler.compile options input session).2
    (after.stage = .done ∨ after.stage = .failed) ∧
    (∀ error, (phases.run setup session.begin).1 ≠ .error (.stage error)) ∧
    (success = true ↔ after.stage = .done) ∧
    (flags.Pairwise fun a b => a.order b = .lt) ∧
    ∃ progress messages : Transcript, (∀ message ∈ progress, message.severity = .info) ∧
      messages = progress
        ++ flags.map (fun flag => ⟨flag.severity, options.flagLayout.line flag⟩)
        ++ (if success then [] else [⟨.error, "Compilation failed"⟩]) ∧
      after.world.transcript = session.world.transcript ++ messages ∧
      (success = true ↔ ∀ message ∈ messages, message.severity ≠ .error) := by
  intro compiler setup phases flags success after
  have hterse : setup.engine.Terse := Engine.in_memory_terse rules
  let product := (Compiler.runPhases setup session.begin).product
  obtain ⟨⟨progress, hinfo, htalks⟩, hascending, hknown⟩ :=
    Compiler.run_phases_ends hterse session
  have hdone (h : product.stage = .done) : product.diagnostics.hasErrors = false := by
    rcases hknown with hpassed | hfailed
    · exact hpassed.2
    · rw [show product.stage = .failed from hfailed] at h
      contradiction
  have hsuccess : success = true ↔ product.stage = .done := beq_iff_eq
  have hclosing : flags.map (fun flag => ⟨flag.severity, options.flagLayout.line flag⟩) ++
      (if success then [] else [⟨.error, "Compilation failed"⟩]) =
        Compiler.closing options.flagLayout product := by
    simp only [hsuccess]
    rfl
  refine ⟨hknown.imp_left And.left, fun error hrun => ?_, hsuccess, hascending, progress, _, hinfo,
    rfl, ?_, ?_⟩
  · exact (Compiler.run_regular hterse (Prod.ext hrun rfl)).regular error rfl
  · show (Compiler.runPhases setup session.begin).world.transcript ++
      Compiler.closing options.flagLayout product = _
    rw [htalks, List.append_assoc, List.append_assoc, hclosing]
  · rw [List.append_assoc, hclosing, hsuccess, List.forall_mem_append]
    refine (Compiler.done_iff_spotless hdone).trans (and_iff_right fun message hmessage => ?_).symm
    simp [hinfo message hmessage]

end MachineCompiler
