import MachineCompiler.Proofs.Compile.MutedPhases
import MachineCompiler.Proofs.Compile.Twins

/-!
# Options that only report

The times of phases, short names and inferred types can be asked for without a change of what a
compile does. Two compiles whose options differ in them come through the same phases, and what they
say differs in the times of the phases that were completed.
-/

namespace MachineCompiler

open Action
open Engine (Memory Rules inMemory)

variable {σ π α : Type} {setup setup' : Setup σ π} {profile shortNames printTypes : Bool}

/-! ## What is told -/

namespace Transcript

/-- The message about the time that a phase took, if times are told. -/
def timeOf (profile : Bool) (phase : String) (milliseconds : Nat) : Transcript :=
  if profile then [Message.timing phase milliseconds] else []

/-- The transcript consists of what was said in phases that were completed, one after the other,
each with the time that it took if times are told. -/
inductive Recounts (profile : Bool) : List (String × Transcript) → Transcript → Prop where
  | nil : Recounts profile [] []
  | cons {phase : String} {said rest : Transcript} {phases : List (String × Transcript)}
      (milliseconds : Nat) (h : Recounts profile phases rest) :
      Recounts profile ((phase, said) :: phases)
        (said ++ timeOf profile phase milliseconds ++ rest)

/-- Since `start` and `start'`, the same was said in the phases that were completed, and then the
same `rest`; one transcript may tell the times and the other one not. -/
def Agree (profile profile' : Bool) (phases : List (String × Transcript))
    (rest start start' first second : Transcript) : Prop :=
  ∃ said said', Recounts profile phases said ∧ Recounts profile' phases said' ∧
    first = start ++ said ++ rest ∧ second = start' ++ said' ++ rest

/-- Transcripts that agree from one phase on agree from the phase before it on. -/
theorem Agree.cons {profile profile' : Bool} {phases : List (String × Transcript)}
    {rest start start' said first second : Transcript} {phase : String}
    {milliseconds milliseconds' : Nat}
    (h : Agree profile profile' phases rest (start ++ said ++ timeOf profile phase milliseconds)
      (start' ++ said ++ timeOf profile' phase milliseconds') first second) :
    Agree profile profile' ((phase, said) :: phases) rest start start' first second := by
  obtain ⟨later, later', hlater, hlater', rfl, rfl⟩ := h
  exact ⟨_, _, .cons milliseconds hlater, .cons milliseconds' hlater',
    by simp only [List.append_assoc], by simp only [List.append_assoc]⟩

end Transcript

open Transcript (timeOf Recounts)

/-- The compiles are level, and of the phases in `names` they have completed all and told the same
about each. -/
def Completed (profile profile' : Bool) (names : List String) (start start' : Transcript)
    (first second : Compile σ π) : Prop :=
  Level first second ∧ ∃ told, told.map Prod.fst = names ∧
    Transcript.Agree profile profile' told [] start start' first.world.transcript
      second.world.transcript

/-- The compiles are level, and of the phases in `names` they have completed some, in order, and
told the same about each and about the one that was not completed. -/
def Stopped (profile profile' : Bool) (names : List String) (start start' : Transcript)
    (first second : Compile σ π) : Prop :=
  Level first second ∧ ∃ told rest, told.map Prod.fst <+: names ∧
    Transcript.Agree profile profile' told rest start start' first.world.transcript
      second.world.transcript

section

variable {profile profile' : Bool} {names : List String} {start start' said : Transcript}
  {first second : Compile σ π}

/-- All phases are some of them. -/
theorem Completed.stopped (h : Completed profile profile' names start start' first second) :
    Stopped profile profile' names start start' first second := by
  obtain ⟨hlevel, told, hnames, hagree⟩ := h
  exact ⟨hlevel, told, [], hnames ▸ List.prefix_rfl, hagree⟩

/-- A compile that stops in its first phase has told about no other one. -/
theorem Abreast.stopped (h : Abreast start start' first second) :
    Stopped profile profile' names start start' first second := by
  obtain ⟨said, hfirst, hsecond⟩ := h.transcripts
  exact ⟨h.toLevel, [], said, List.nil_prefix, [], [], .nil, .nil, by simpa using hfirst,
    by simpa using hsecond⟩

/-- One more phase was completed before the others. -/
theorem Completed.cons {phase : String} {milliseconds milliseconds' : Nat}
    (h : Completed profile profile' names (start ++ said ++ timeOf profile phase milliseconds)
      (start' ++ said ++ timeOf profile' phase milliseconds') first second) :
    Completed profile profile' (phase :: names) start start' first second := by
  obtain ⟨hlevel, told, hnames, hagree⟩ := h
  exact ⟨hlevel, (phase, said) :: told, by simp [hnames], hagree.cons⟩

theorem Stopped.cons {phase : String} {milliseconds milliseconds' : Nat}
    (h : Stopped profile profile' names (start ++ said ++ timeOf profile phase milliseconds)
      (start' ++ said ++ timeOf profile' phase milliseconds') first second) :
    Stopped profile profile' (phase :: names) start start' first second := by
  obtain ⟨hlevel, told, rest, hnames, hagree⟩ := h
  exact ⟨hlevel, (phase, said) :: told, rest, by simpa using hnames, hagree.cons⟩

end

/-- An action that stays abreast and says nothing takes level compiles to level ones. -/
theorem Action.StaysAbreast.silent {action action' : Action σ π α}
    (h : StaysAbreast setup setup' action action')
    (hsilent : ∀ compile, (action.run setup compile).2.world.transcript = compile.world.transcript)
    (hsilent' : ∀ compile,
      (action'.run setup' compile).2.world.transcript = compile.world.transcript)
    {first second : Compile σ π} (hlevel : Level first second) :
    Together
      (fun _ after after' => Level after after' ∧
        after.world.transcript = first.world.transcript ∧
        after'.world.transcript = second.world.transcript)
      (fun after after' => Level after after' ∧
        after.world.transcript = first.world.transcript ∧
        after'.world.transcript = second.world.transcript)
      (action.run setup first) (action'.run setup' second) := by
  have hsame := hsilent first
  have hsame' := hsilent' second
  have hboth := h _ _ first second hlevel.abreast
  generalize action.run setup first = outcome at hsame hboth ⊢
  generalize action'.run setup' second = outcome' at hsame' hboth ⊢
  cases hboth with
  | value habreast => exact .value ⟨habreast.toLevel, hsame, hsame'⟩
  | failure habreast => exact .failure ⟨habreast.toLevel, hsame, hsame'⟩

/-- The compile at another time. -/
def Compile.at (compile : Compile σ π) (clock : Clock) : Compile σ π :=
  { compile with world := { compile.world with clock } }

/-- Compiles that are level are level at any time. -/
theorem Level.at {first second : Compile σ π} (h : Level first second) (clock clock' : Clock) :
    Level (first.at clock) (second.at clock') :=
  { h with muted := h.muted }

/-! ## Pipelines -/

namespace Pipeline

/-- A phase does what it does alone at some time, and if it is completed its time is told on
demand. -/
theorem run_phase_cases (setup : Setup σ π) (options : Options) (phase : Phase σ π)
    (compile : Compile σ π) :
    ∃ clock,
      (∃ after clock' milliseconds, phase.run.run setup (compile.at clock) = (.ok (), after) ∧
        (runPhase (Compiler.pipeline options).plugins phase).run setup compile =
          (.ok (), { after.at clock' with world := { (after.at clock').world with
            transcript := after.world.transcript ++
              timeOf options.profile phase.name milliseconds } })) ∨
      ∃ failure after, phase.run.run setup (compile.at clock) = (.error failure, after) ∧
        (runPhase (Compiler.pipeline options).plugins phase).run setup compile =
          (.error failure, after) := by
  unfold Compiler.pipeline
  cases options.profile with
  | false =>
    refine ⟨compile.world.clock, ?_⟩
    show (∃ after clock' milliseconds, phase.run.run setup compile = _ ∧
      (runPhase [] phase).run setup compile = _) ∨
        ∃ failure after, phase.run.run setup compile = _ ∧ (runPhase [] phase).run setup compile = _
    rw [run_phase_silent]
    rcases phase.run.run setup compile with ⟨failure | ⟨⟩, after⟩
    · exact .inr ⟨failure, after, rfl, rfl⟩
    · refine .inl ⟨after, after.world.clock, 0, rfl, ?_⟩
      simp [timeOf, Compile.at]
  | true =>
    refine ⟨{ compile.world.clock with next := compile.world.clock.next + 1 }, ?_⟩
    show (∃ after clock' milliseconds, _ ∧ (runPhase [Plugin.timing] phase).run setup compile = _) ∨
      ∃ failure after, _ ∧ (runPhase [Plugin.timing] phase).run setup compile = _
    rw [run_phase_timing, run_bind, run_in_world]
    show (∃ after clock' milliseconds, _ ∧ Action.run _ setup (compile.at _) = _) ∨
      ∃ failure after, _ ∧ Action.run _ setup (compile.at _) = _
    rw [run_bind]
    rcases phase.run.run setup (compile.at _) with ⟨failure | ⟨⟩, after⟩
    · exact .inr ⟨failure, after, rfl, rfl⟩
    · exact .inl ⟨after, _, _, rfl, rfl⟩

variable {first second : Compile σ π}

/-- A phase that stays abreast does so when it is timed in one compile and not in the other. -/
theorem run_phase_abreast (options options' : Options) {phase : Phase σ π}
    (h : StaysAbreast setup setup' phase.run phase.run) (hlevel : Level first second) :
    Together
      (fun _ after after' => Level after after' ∧ ∃ said milliseconds milliseconds',
        after.world.transcript = first.world.transcript ++ said ++
          timeOf options.profile phase.name milliseconds ∧
        after'.world.transcript = second.world.transcript ++ said ++
          timeOf options'.profile phase.name milliseconds')
      (Abreast first.world.transcript second.world.transcript)
      ((runPhase (Compiler.pipeline options).plugins phase).run setup first)
      ((runPhase (Compiler.pipeline options').plugins phase).run setup' second) := by
  obtain ⟨clock, hfirst⟩ := run_phase_cases setup options phase first
  obtain ⟨clock', hsecond⟩ := run_phase_cases setup' options' phase second
  have hboth := h _ _ (first.at clock) (second.at clock') (hlevel.at clock clock').abreast
  rcases hfirst with ⟨after, stop, time, hrun, hall⟩ | ⟨failure, after, hrun, hall⟩ <;>
    rcases hsecond with ⟨after', stop', time', hrun', hall'⟩ | ⟨failure', after', hrun', hall'⟩ <;>
      rw [hrun, hrun'] at hboth <;> rw [hall, hall']
  · cases hboth with
    | value h =>
      obtain ⟨said, hsaid, hsaid'⟩ := h.transcripts
      exact .value ⟨{ h.toLevel with muted := h.muted }, said, time, time', congrArg (· ++ _) hsaid,
        congrArg (· ++ _) hsaid'⟩
  · cases hboth
  · cases hboth
  · cases hboth with
    | failure h => exact .failure h

/-- Phases that stay abreast tell the same when they run one after the other. -/
theorem run_phases_abreast (options options' : Options) {phases : List (Phase σ π)}
    {belongs : Phase σ π → Bool}
    (hphases : ∀ phase ∈ phases, StaysAbreast setup setup' phase.run phase.run)
    (henabled : ∀ phase ∈ phases, ∀ compile,
      phase.enabled setup compile = belongs phase ∧ phase.enabled setup' compile = belongs phase)
    (hlevel : Level first second) :
    Together
      (fun _ => Completed options.profile options'.profile
        ((phases.filter belongs).map Phase.name) first.world.transcript second.world.transcript)
      (Stopped options.profile options'.profile
        ((phases.filter belongs).map Phase.name) first.world.transcript second.world.transcript)
      ((runPhases (Compiler.pipeline options).plugins phases).run setup first)
      ((runPhases (Compiler.pipeline options').plugins phases).run setup' second) := by
  induction phases generalizing first second with
  | nil => exact .value ⟨hlevel, [], rfl, [], [], .nil, .nil, by simp, by simp⟩
  | cons phase rest ih =>
    obtain ⟨hphase, hphases⟩ := List.forall_mem_cons.1 hphases
    obtain ⟨hbelongs, henabled⟩ := List.forall_mem_cons.1 henabled
    rw [run_run_phases_cons, run_run_phases_cons, (hbelongs first).1, (hbelongs second).2]
    cases hcase : belongs phase with
    | false =>
      rw [if_neg Bool.false_ne_true, if_neg Bool.false_ne_true,
        List.filter_cons_of_neg (by simp [hcase])]
      exact ih hphases henabled hlevel
    | true =>
      rw [if_pos rfl, if_pos rfl, List.filter_cons_of_pos hcase, run_bind, run_bind]
      have hboth := run_phase_abreast options options' hphase hlevel
      generalize Action.run _ setup first = outcome at hboth ⊢
      generalize Action.run _ setup' second = outcome' at hboth ⊢
      cases hboth with
      | value h =>
        obtain ⟨hafter, said, time, time', hsaid, hsaid'⟩ := h
        have hrest := ih hphases henabled hafter
        rw [hsaid, hsaid'] at hrest
        exact hrest.mono (fun _ _ _ => .cons) fun _ _ => .cons
      | failure h => exact .failure h.stopped

/-- The built-in phases stay abreast with an engine in memory. -/
theorem built_in_abreast {setup : Setup Memory π} {rules : Rules}
    (hengine : setup.engine = inMemory rules) :
    ∀ phase ∈ (builtIn : List (Phase Memory π)),
      StaysAbreast setup (setup.reporting profile shortNames printTypes) phase.run phase.run := by
  simp only [builtIn, List.forall_mem_cons, List.not_mem_nil, false_imp_iff, implies_true, and_true]
  exact ⟨Phase.run_parse_abreast, Phase.run_install_abreast, Phase.run_check_abreast hengine,
    Phase.run_generate_c_abreast, Phase.run_generate_verification_abreast⟩

/-- Whether a built-in phase belongs to a compile has nothing to do with its reports. -/
theorem built_in_reporting (compile : Compile σ π) :
    ∀ phase ∈ (builtIn : List (Phase σ π)), ∀ other,
      phase.enabled setup other = phase.enabled setup compile ∧
        phase.enabled (setup.reporting profile shortNames printTypes) other =
          phase.enabled setup compile := by
  simp only [builtIn, List.forall_mem_cons, List.not_mem_nil, false_imp_iff, implies_true, and_true]
  exact ⟨fun _ => ⟨rfl, rfl⟩, fun _ => ⟨rfl, rfl⟩, fun _ => ⟨rfl, rfl⟩, fun _ => ⟨rfl, rfl⟩,
    fun _ => ⟨rfl, rfl⟩⟩

/-- The names of the phases that belong to a compile. -/
def namesOf (setup : Setup σ π) (compile : Compile σ π) : List String :=
  (builtIn.filter fun phase => phase.enabled setup compile).map Phase.name

/-- Moving to another stage says nothing. -/
theorem transcript_advance (setup : Setup σ π) (next : Stage) (compile : Compile σ π) :
    ((advance next).run setup compile).2.world.transcript = compile.world.transcript := by
  show (Action.run (ofExcept _ (compile.product.stage.advance next) >>= _) _ _).2.world.transcript =
    _
  rw [run_bind]
  cases compile.product.stage.advance next <;> rfl

/-- All phases are completed in both compiles, or both stop in the same one. -/
theorem run_abreast {setup : Setup Memory π} {rules : Rules}
    (hengine : setup.engine = inMemory rules) (profile shortNames printTypes : Bool)
    (compile : Compile Memory π) {first second : Compile Memory π} (hlevel : Level first second) :
    Together
      (fun _ => Completed setup.options.profile profile (namesOf setup compile)
        first.world.transcript second.world.transcript)
      (Stopped setup.options.profile profile (namesOf setup compile)
        first.world.transcript second.world.transcript)
      ((Compiler.pipeline setup.options).run.run setup first)
      ((Compiler.pipeline (setup.reporting profile shortNames printTypes).options).run.run
        (setup.reporting profile shortNames printTypes) second) := by
  have habreast : ∀ phase ∈ builtIn, StaysAbreast setup
      (setup.reporting profile shortNames printTypes) phase.run phase.run :=
    built_in_abreast hengine
  have hphases := run_phases_abreast setup.options
    (setup.reporting profile shortNames printTypes).options habreast (built_in_reporting compile)
    hlevel
  unfold Pipeline.run
  rw [Compiler.phases_pipeline, Compiler.phases_pipeline, List.append_nil, run_bind, run_bind]
  generalize Action.run _ setup first = outcome at hphases ⊢
  generalize Action.run _ (setup.reporting profile shortNames printTypes) second = outcome'
    at hphases ⊢
  cases hphases with
  | failure h => exact .failure h
  | value h =>
    obtain ⟨hend, told, hnames, hagree⟩ := h
    have hadvance : StaysAbreast setup (setup.reporting profile shortNames printTypes)
        (advance .done) (advance .done) := .advance
    have hdone := hadvance.silent (transcript_advance setup .done)
      (transcript_advance (setup.reporting profile shortNames printTypes) .done) hend
    refine hdone.mono ?_ ?_
    · rintro _ after after' ⟨hafter, hsame, hsame'⟩
      exact ⟨hafter, told, hnames, by rw [hsame, hsame']; exact hagree⟩
    · rintro after after' ⟨hafter, hsame, hsame'⟩
      refine Completed.stopped ⟨hafter, told, hnames, by rw [hsame, hsame']; exact hagree⟩

end Pipeline

/-! ## Compiles -/

namespace Compiler

/-- A reset says nothing. -/
theorem transcript_reset (setup : Setup σ π) (compile : Compile σ π) :
    ((reset : Action σ π Unit).run setup compile).2.world.transcript =
      compile.world.transcript := by
  show ((uninstall compile.installed.programs).run setup compile).2.world.transcript = _
  cases compile.installed.programs with
  | nil => rfl
  | cons first rest =>
    rw [run_uninstall]
    rcases setup.engine.uninstall (first :: rest) compile.world.engine with
      ⟨_ | ⟨_ | _, _⟩, _⟩ <;> rfl

/-- Compiles that are level conclude a failure with the same flag. -/
theorem conclude_level {first second : Compile σ π} (h : Level first second) (failure : Failure) :
    Level (conclude failure first) (conclude failure second) := by
  have failed {first second : Compile σ π} (h : Level first second) :
      Level { first with product := { first.product with stage := .failed } }
        { second with product := { second.product with stage := .failed } } := by
    obtain ⟨transcript, clock, diagnostics, rfl⟩ := h.sounds
    have hflags : first.product.diagnostics.withoutTypes = diagnostics.withoutTypes :=
      congrArg (·.product.diagnostics) h.muted
    refine { muted := ?_, ascending := h.ascending, ascending' := h.ascending' }
    show Compile.mk _ _ _ (Product.mk _ _ _ _ _ _ _) = Compile.mk _ _ _ (Product.mk _ _ _ _ _ _ _)
    rw [hflags]
    rfl
  obtain ⟨transcript, clock, diagnostics, rfl⟩ := h.sounds
  have reported := failed (h.add_flag (failure.toFlag first.product.root))
  cases failure with
  | phase name => exact failed h
  | stage error => exact reported
  | badName error => exact reported
  | compiler error => exact reported
  | report messages => exact reported

/-- Compiles that are level before a run of the phases are level after it, and have told the same
about the phases. -/
theorem run_phases_level {setup : Setup Memory π} {rules : Rules}
    (hengine : setup.engine = inMemory rules) (profile shortNames printTypes : Bool)
    (compile : Compile Memory π) {first second : Compile Memory π} (hlevel : Level first second) :
    Stopped setup.options.profile profile (Pipeline.namesOf setup compile) first.world.transcript
        second.world.transcript (runPhases setup first)
        (runPhases (setup.reporting profile shortNames printTypes) second) ∧
      ((runPhases setup first).product.stage ≠ .done ∨
        Completed setup.options.profile profile (Pipeline.namesOf setup compile)
          first.world.transcript second.world.transcript (runPhases setup first)
          (runPhases (setup.reporting profile shortNames printTypes) second)) := by
  have hreset : StaysAbreast setup (setup.reporting profile shortNames printTypes) reset reset :=
    .get_bind fun _ _ _ _ _ => .uninstall
  have hbegun := hreset.silent (transcript_reset setup)
    (transcript_reset (setup.reporting profile shortNames printTypes)) hlevel
  have concluded {failure : Failure} {after after' : Compile Memory π}
      (h : Stopped setup.options.profile profile (Pipeline.namesOf setup compile)
        first.world.transcript second.world.transcript after after') :
      Stopped setup.options.profile profile (Pipeline.namesOf setup compile)
        first.world.transcript second.world.transcript (conclude failure after)
        (conclude failure after') :=
    ⟨conclude_level h.1 failure, h.2⟩
  have hfailed {failure : Failure} {after : Compile Memory π} :
      (conclude failure after).product.stage ≠ .done := by simp [conclude]
  unfold runPhases
  rw [run_bind, run_bind]
  generalize reset.run setup first = outcome at hbegun ⊢
  generalize reset.run (setup.reporting profile shortNames printTypes) second = outcome'
    at hbegun ⊢
  cases hbegun with
  | failure h =>
    obtain ⟨hafter, hsame, hsame'⟩ := h
    refine ⟨concluded ?_, .inl hfailed⟩
    rw [← hsame, ← hsame']
    exact hafter.abreast.stopped
  | value h =>
    obtain ⟨hafter, hsame, hsame'⟩ := h
    have hrun := Pipeline.run_abreast hengine profile shortNames printTypes compile hafter
    rw [hsame, hsame'] at hrun
    dsimp only
    generalize Action.run _ setup _ = outcome at hrun ⊢
    generalize Action.run _ (setup.reporting profile shortNames printTypes) _ = outcome' at hrun ⊢
    cases hrun with
    | value h => exact ⟨h.stopped, .inr h⟩
    | failure h => exact ⟨concluded h, .inl hfailed⟩

end Compiler

/-! ## Sessions -/

/-- The options that decide about reports decide about nothing else. Two compiles of one input under
options that differ in them give the same answer, make the same requests to the engine and leave it
in the same state, write the same files, run the same programs, and report, track and keep the same.
Their flags are the same but for inferred types, and up to the flags, which come last, they say the
same but for the times of the phases that were completed. -/
theorem reporting_options_are_inert (rules : Rules) (parser : Source.Parser π)
    (toolchain : Toolchain) (options : Options) (profile shortNames printTypes : Bool)
    (input : Path) (session : Session Memory π) :
    let compiler : Compiler Memory π := ⟨inMemory rules, parser, toolchain⟩
    let options' := { options with profile, shortNames, printTypes }
    let first := compiler.compile options input session
    let second := compiler.compile options' input session
    let product := (Compiler.runPhases (compiler.setup options input) session.begin).product
    let product' := (Compiler.runPhases (compiler.setup options' input) session.begin).product
    let phases := Pipeline.namesOf (compiler.setup options input) session.begin
    first.1 = second.1 ∧ first.2.muted = second.2.muted ∧
      product.diagnostics.withoutTypes = product'.diagnostics.withoutTypes ∧
      ∃ told rest said said', told.map Prod.fst <+: phases ∧
        (first.1 = false ∨ told.map Prod.fst = phases ∧ rest = []) ∧
        Recounts options.profile told said ∧ Recounts profile told said' ∧
        first.2.world.transcript = session.world.transcript ++ said ++ rest ++
          Compiler.closing options.flagLayout product ∧
        second.2.world.transcript = session.world.transcript ++ said' ++ rest ++
          Compiler.closing options'.flagLayout product' := by
  intro compiler options' first second product product' phases
  have hlevel : Level session.begin session.begin :=
    { muted := rfl, ascending := List.Pairwise.nil, ascending' := List.Pairwise.nil }
  have hengine : (compiler.setup options input).engine = inMemory rules := rfl
  obtain ⟨hstopped, hdone⟩ := Compiler.run_phases_level hengine profile shortNames printTypes
    session.begin hlevel
  obtain ⟨hend, hstopped⟩ := hstopped
  have hstage : product.stage = product'.stage := congrArg (·.product.stage) hend.muted
  refine ⟨congrArg (· == Stage.done) hstage, congrArg (fun compile => Session.ofCompile compile)
    hend.muted, congrArg (·.product.diagnostics) hend.muted, ?_⟩
  rcases hdone with hfailed | ⟨-, told, hnames, said, said', hsaid, hsaid', hfirst, hsecond⟩
  · obtain ⟨told, rest, hnames, said, said', hsaid, hsaid', hfirst, hsecond⟩ := hstopped
    refine ⟨told, rest, said, said', hnames, .inl (beq_eq_false_iff_ne.2 hfailed), hsaid, hsaid',
      congrArg (· ++ _) hfirst, congrArg (· ++ _) hsecond⟩
  · exact ⟨told, [], said, said', hnames ▸ List.prefix_rfl, .inr ⟨hnames, rfl⟩, hsaid, hsaid',
      congrArg (· ++ _) hfirst, congrArg (· ++ _) hsecond⟩

end MachineCompiler
