import MachineCompiler.Proofs.Compile.Evaluation
import MachineCompiler.Proofs.Compile.History
import MachineCompiler.Proofs.Compile.TwinPhases
import MachineCompiler.Source.Line

/-!
# Compiles do not depend on the past

A reset makes twins of compiles with any past, and the pipeline keeps them twins. So what a compiler
does with an input is what a new compiler does with it.
-/

namespace MachineCompiler

open Engine (Memory Program Rules inMemory)
open SupportModule (isAnyIn)
open Action

variable {σ π : Type} {rules : Rules} {setup : Setup Memory π} {start start' : World Memory π}
  {known : List SupportModule}

/-! ## Pipelines -/

namespace Pipeline

/-- Twins may read different times off their clocks. -/
theorem read_clock_bind {α : Type} {next next' : Nat → Action Memory π α}
    {Q : α → Compile Memory π → Compile Memory π → Prop}
    {E : Compile Memory π → Compile Memory π → Prop}
    (h : ∀ time time', Parallel setup (Twins setup start start' known) (next time) (next' time')
      Q E) :
    Parallel setup (Twins setup start start' known) (inWorld World.readClock >>= next)
      (inWorld World.readClock >>= next') Q E := by
  intro first second htwins
  rw [run_bind, run_bind, run_in_world, run_in_world]
  refine h _ _ _ _ { htwins with outside := ?_, inside := ?_ }
  · exact { htwins.outside with }
  · exact { htwins.inside with }

/-- Telling how long a phase took, twins may tell different times. -/
theorem progress_timing (phase : String) (time time' : Nat) :
    Parallel setup (Twins setup start start' known)
      (progress (phase ++ ": " ++ Plugin.seconds time ++ "s"))
      (progress (phase ++ ": " ++ Plugin.seconds time' ++ "s"))
      (fun _ => Twins setup start start' known) (Twins setup start start' known) := by
  intro first second htwins
  refine .value { htwins with outside := ?_, inside := ?_ }
  · exact { htwins.outside with
      transcripts := htwins.outside.transcripts.append (.cons (.timing phase time time') .nil) }
  · exact { htwins.inside with }

/-- A steady phase is steady when it is timed, although the times may differ. -/
theorem run_phase_steady {options : Options} {phase : Phase Memory π}
    (hphase : Steady setup (Twins setup start start' known) phase.run) :
    Steady setup (Twins setup start start' known)
      (runPhase (Compiler.pipeline options).plugins phase) := by
  unfold Compiler.pipeline
  split
  · show Steady setup _ (runPhase [Plugin.timing] phase)
    rw [run_phase_timing]
    refine read_clock_bind fun begun begun' => Parallel.bind hphase fun _ => ?_
    exact read_clock_bind fun ended ended' => progress_timing phase.name _ _
  · show Steady setup _ (runPhase [] phase)
    rw [run_phase_silent]
    exact hphase

/-- Steady phases that belong to both compiles or to none are steady one after the other. -/
theorem run_phases_steady {R : Compile Memory π → Compile Memory π → Prop}
    {plugins : List (Plugin Memory π)} {phases : List (Phase Memory π)}
    (hphases : ∀ phase ∈ phases, Steady setup R (runPhase plugins phase))
    (henabled : ∀ phase ∈ phases, ∀ first second,
      phase.enabled setup first = phase.enabled setup second) :
    Steady setup R (runPhases plugins phases) := by
  induction phases with
  | nil => exact .pure
  | cons phase rest ih =>
    obtain ⟨hphase, hphases⟩ := List.forall_mem_cons.1 hphases
    obtain ⟨hsame, henabled⟩ := List.forall_mem_cons.1 henabled
    have hrest := ih hphases henabled
    refine .read_bind (Parallel.get_bind fun first second _ => ?_)
    -- Twins take the same branch, as a phase is enabled by the options only.
    rw [hsame first second]
    exact Steady.ite (.bind hphase fun _ => hrest) hrest

/-- The built-in phases keep compiles twins when the input is no support file. -/
theorem built_in_steady (hengine : setup.engine = inMemory rules) (hinput : ∀ root,
      ProgramName.resolve start.currentDirectory setup.input = .ok root →
        isAnyIn setup.toolchain.supportDirectory root = false) :
    ∀ phase ∈ (builtIn : List (Phase Memory π)),
      Steady setup (Twins setup start start' known) phase.run := by
  simp only [builtIn, List.forall_mem_cons, List.not_mem_nil, false_imp_iff, implies_true,
    and_true]
  exact ⟨steady_of_quiet Phase.run_parse_quiet (Phase.run_parse_outside hinput),
    Phase.run_install_steady hengine, Phase.run_check_with_steady hengine _,
    Phase.run_generate_c_steady hengine, Phase.run_generate_verification_steady hengine⟩

/-- Whether a built-in phase belongs to a compile depends on its options only. -/
theorem built_in_enabled :
    ∀ phase ∈ (builtIn : List (Phase Memory π)), ∀ first second,
      phase.enabled setup first = phase.enabled setup second := by
  simp only [builtIn, List.forall_mem_cons, List.not_mem_nil, false_imp_iff, implies_true,
    and_true]
  exact ⟨fun _ _ => rfl, fun _ _ => rfl, fun _ _ => rfl, fun _ _ => rfl, fun _ _ => rfl⟩

theorem run_steady (hengine : setup.engine = inMemory rules) (options : Options)
    (hinput : ∀ root, ProgramName.resolve start.currentDirectory setup.input = .ok root →
      isAnyIn setup.toolchain.supportDirectory root = false) :
    Steady setup (Twins setup start start' known) (Compiler.pipeline options).run := by
  have hphases : (Compiler.pipeline options : Pipeline Memory π).phases = [] := by
    unfold Compiler.pipeline
    split <;> rfl
  unfold run
  rw [hphases, List.append_nil]
  refine .bind (run_phases_steady (fun phase hmem => ?_) built_in_enabled) fun _ =>
    advance_steady _
  exact run_phase_steady (built_in_steady hengine hinput phase hmem)

end Pipeline

/-! ## Resets -/

/-- Nothing is tracked after all tracked programs were removed. -/
theorem Installed.programs_untrack_all (installed : Installed) :
    (installed.untrackAll installed.programs).programs = [] := by
  refine List.eq_nil_iff_forall_not_mem.2 fun name hmem => ?_
  have hcontains := Installed.contains_iff.2 ⟨name, hmem, BEq.rfl⟩
  obtain ⟨hbefore, hnone⟩ := Installed.contains_untrack_all.1 hcontains
  obtain ⟨tracked, htracked, hsame⟩ := Installed.contains_iff.1 hbefore
  rw [List.any_eq_false] at hnone
  exact hnone tracked htracked (BEq.symm hsame)

/-- An engine that holds no tracked program holds support programs only. -/
theorem Exact.cleared {directory : Path} {memory : Memory} {cache : SupportCache}
    {installed : Installed} (h : Exact Memory.ledger directory memory cache installed)
    (hprograms : installed.programs = []) (hrefused : memory.refused = none) :
    memory.Plain directory ∧ memory.own directory = [] := by
  have hnone (name : ProgramName) : ¬installed.contains name = true := by
    rw [Installed.contains, hprograms]
    exact Bool.false_ne_true
  refine ⟨⟨hrefused, fun program hmem _ => ?_⟩, List.filter_eq_nil_iff.2 fun program hmem => ?_⟩
  · exact (h.blank program hmem).resolve_left (hnone _)
  · have hheld : Engine.holds (Memory.ledger.installed memory) program.name = true :=
      List.any_eq_true.2 ⟨program, hmem, BEq.rfl⟩
    obtain ⟨module, -, hin⟩ := ((h.held_iff _).1 hheld).resolve_left (hnone _)
    rw [SupportModule.is_any_in_iff.2 ⟨module, hin⟩]
    decide

namespace Compiler

/-- A reset succeeds unless it is refused, and nothing is tracked afterwards. -/
theorem run_reset (hengine : setup.engine = inMemory rules) {compile : Compile Memory π}
    (hexact : compile.Exact Memory.ledger setup) (hrefused : compile.world.engine.refused = none) :
    ∃ engine installed, (reset : Action Memory π Unit).run setup compile =
        (.ok (), { compile with world := { compile.world with engine }, installed }) ∧
      installed.programs = [] ∧ engine.refused = none := by
  show ∃ engine installed, (uninstall compile.installed.programs).run setup compile = _ ∧ _
  have huntracked := compile.installed.programs_untrack_all
  cases hprograms : compile.installed.programs with
  | nil => exact ⟨_, _, rfl, hprograms, hrefused⟩
  | cons first rest =>
    rw [hprograms] at huntracked
    -- What is tracked is in the engine, so the uninstall is carried out.
    have hheld : ∀ name ∈ first :: rest, compile.world.engine.isInstalled name = true :=
      fun name hname => (hexact.held_iff name).2
        (.inl (Installed.contains_iff.2 ⟨name, hprograms ▸ hname, BEq.rfl⟩))
    refine ⟨{ compile.world.engine.record (.uninstall (first :: rest)) with
      installed := compile.world.engine.installed.filter fun program =>
        !(first :: rest).any (program.name == ·) }, _, ?_, huntracked, hrefused⟩
    rw [run_uninstall, hengine, Memory.uninstall_held hrefused hheld]
    rfl

/-- After a reset, compiles that agree outside of the engine are twins, whatever has been installed,
marked and read before. -/
theorem reset_twins (hengine : setup.engine = inMemory rules) :
    Parallel setup
      (fun first second => Outside setup start start' first second ∧
        (first.Exact Memory.ledger setup ∧ first.world.engine.refused = none) ∧
        second.Exact Memory.ledger setup ∧ second.world.engine.refused = none)
      reset reset (fun _ => Twins setup start start' []) (Twins setup start start' []) := by
  rintro first second ⟨houtside, ⟨hexact, hrefused⟩, hexact', hrefused'⟩
  have hkeeps := keeps_ledger hengine
  obtain ⟨engine, installed, hrun, hprograms, hwilling⟩ := run_reset hengine hexact hrefused
  obtain ⟨engine', installed', hrun', hprograms', hwilling'⟩ := run_reset hengine hexact' hrefused'
  have hafter := reset_exact hkeeps first hexact
  have hafter' := reset_exact hkeeps second hexact'
  rw [hrun] at hafter ⊢
  rw [hrun'] at hafter' ⊢
  obtain ⟨hplain, hown⟩ := Exact.cleared hafter hprograms hwilling
  obtain ⟨hplain', hown'⟩ := Exact.cleared hafter' hprograms' hwilling'
  -- Only support programs are left in either engine, not necessarily the same ones; no module is
  -- known to be marked in both.
  refine .value {
    outside := { houtside with }
    inside := ⟨⟨hplain, hplain', hown.trans hown'.symm⟩, hprograms.trans hprograms'.symm, ?_⟩
    exact := hafter
    exact' := hafter'
    marked := List.forall_mem_nil _
    marked' := List.forall_mem_nil _ }
  intro name hcontains
  rw [Installed.contains, hprograms] at hcontains
  contradiction

/-- A failure is concluded alike in compiles with the same product. -/
theorem conclude_outside {failure : Failure} {first second : Compile Memory π}
    (h : Outside setup start start' first second) :
    Outside setup start start' (conclude failure first) (conclude failure second) where
  files := h.files
  readable := h.readable
  place := h.place
  parsers := h.parsers
  transcripts := h.transcripts
  launches := h.launches
  product := by unfold conclude; rw [h.product]
  root := h.root

/-- Up to their messages at the end, compiles that agree outside of the engine stay alike. -/
theorem run_phases_alike (hengine : setup.engine = inMemory rules)
    {first second : Compile Memory π} (houtside : Outside setup start start' first second)
    (hexact : first.Exact Memory.ledger setup) (hexact' : second.Exact Memory.ledger setup)
    (hrefused : first.world.engine.refused = none) (hrefused' : second.world.engine.refused = none)
    (hinput : ∀ root, ProgramName.resolve start.currentDirectory setup.input = .ok root →
      isAnyIn setup.toolchain.supportDirectory root = false) :
    Outside setup start start' (runPhases setup first) (runPhases setup second) ∧
      Inside setup (runPhases setup first) (runPhases setup second) := by
  have hboth := (reset_twins hengine).bind
    (fun _ => Pipeline.run_steady hengine setup.options hinput) first second
    ⟨houtside, ⟨hexact, hrefused⟩, hexact', hrefused'⟩
  unfold runPhases
  generalize Action.run _ setup first = outcome at hboth ⊢
  generalize Action.run _ setup second = outcome' at hboth ⊢
  cases hboth with
  | value h => exact ⟨h.outside, h.inside⟩
  | failure h => exact ⟨conclude_outside h.outside, { h.inside with }⟩

end Compiler

/-! ## Sessions -/

/-- Two compiles, begun in the sessions `start` and `start'`, have the same results: the answer, the
stage, what was said since they began, the times that phases took aside, and all that was parsed,
written, run and left in the engine to be removed by the next compile. -/
structure SameResults (start start' : Session σ π) (first second : Bool × Session σ π) : Prop where
  succeeded : first.1 = second.1
  stage : first.2.stage = second.2.stage
  messages : Transcript.Follow start.world.transcript start'.world.transcript
    first.2.world.transcript second.2.world.transcript
  program : first.2.program = second.2.program
  parsed : first.2.files = second.2.files
  generated : first.2.generated = second.2.generated
  files : first.2.world.files = second.2.world.files
  launches : ∃ launched, first.2.world.launches = start.world.launches ++ launched ∧
    second.2.world.launches = start'.world.launches ++ launched
  tracked : first.2.installed.programs = second.2.installed.programs

variable {compiler : Compiler Memory π} {session : Session Memory π} {options : Options}
  {input : Path} {world : World Memory π}

/-- What a compiler does with an input does not depend on its history, failed compiles and refused
operations included: it has the same results as the first compile of a new compiler, provided that
the engine refuses nothing, every support file can be read and the input is none of them. -/
theorem history_is_forgotten (hengine : compiler.engine = inMemory rules)
    (hreached : session.Reached compiler Memory.ledger)
    (hrefused : session.world.engine.refused = none)
    (hreadable : ∀ module : SupportModule, ∃ text, session.world.files.readText
      (module.location compiler.toolchain.supportDirectory) = .ok text)
    (hinput : ∀ root, ProgramName.resolve session.world.currentDirectory input = .ok root →
      isAnyIn compiler.toolchain.supportDirectory root = false)
    (hnew : world.engine.installed = []) (hrefused' : world.engine.refused = none)
    (hfiles : session.world.files = world.files)
    (hparser : compiler.parser.Alike session.world.parser world.parser) :
    SameResults session (.start world) (compiler.compile options input session)
      (compiler.compile options input (.start world)) := by
  have hkeeps : compiler.engine.KeepsTo Memory.ledger := hengine ▸ Engine.in_memory_keeps_to rules
  have hstart : (Session.start world).Reached compiler Memory.ledger := .start trivial hnew
  have houtside : Outside (compiler.setup options input) session.world world session.begin
      (Session.start world).begin :=
    { files := hfiles
      readable := hreadable
      place := rfl
      parsers := hparser
      transcripts := .refl _ _
      launches := ⟨[], (List.append_nil _).symm, (List.append_nil _).symm⟩
      product := rfl
      root := fun _ hnone => nomatch hnone }
  obtain ⟨hafter, hinside⟩ := Compiler.run_phases_alike hengine houtside (hreached.exact hkeeps)
    (hstart.exact hkeeps) hrefused hrefused' hinput
  have hproduct := hafter.product
  refine {
    succeeded := ?_
    stage := congrArg Product.stage hproduct
    messages := ?_
    program := congrArg Product.program hproduct
    parsed := congrArg Product.files hproduct
    generated := congrArg Product.generated hproduct
    files := hafter.files
    launches := hafter.launches
    tracked := hinside.programs }
  · show (_ == Stage.done) = (_ == Stage.done)
    rw [hproduct]
  · show Transcript.Follow _ _ (_ ++ Compiler.closing _ _) (_ ++ Compiler.closing _ _)
    rw [hproduct]
    exact hafter.transcripts.append (Transcript.forall_alike _)

/-- A compiler has compiled a file, and has failed to compile it once more because the engine refused
to remove the programs of the first compile. With the same files and an engine that refuses nothing,
the third compile has the same results as the first one of a new compiler. -/
theorem history_is_forgotten_after_refusal :
    let compiler : Compiler Memory (List ProgramName) :=
      ⟨inMemory .none, Source.lineParser, .inDirectory (.ofString "/toolchain")⟩
    let files := (Toolchain.laySample (.ofString "/toolchain")
      (.inDirectory (.ofString "/work"))).lay (.ofString "/work/Main.p")
        (.file (.text "machine Main\n") .plain)
    let world : World Memory (List ProgramName) := ⟨.empty, [], files, [], [], .still⟩
    let refusing (verb : Option Engine.Verb) (session : Session Memory (List ProgramName)) :=
      { session with world := { session.world with
        engine := { session.world.engine with refused := verb }, files := files } }
    let once := (compiler.compile .default (.ofString "Main.p") (.start world)).2
    let twice :=
      (compiler.compile .default (.ofString "Main.p") (refusing (some .uninstall) once)).2
    let session := refusing none twice
    SameResults session (.start world) (compiler.compile .default (.ofString "Main.p") session)
      (compiler.compile .default (.ofString "Main.p") (.start world)) := by
  intro compiler files world refusing once twice session
  have hrefusing (verb : Option Engine.Verb) {session : Session Memory (List ProgramName)}
      (h : session.Reached compiler Memory.ledger) :
      (refusing verb session).Reached compiler Memory.ledger :=
    h.between ⟨trivial, rfl⟩
  have honce : once.Reached compiler Memory.ledger :=
    (Session.Reached.start trivial rfl).compile .default (.ofString "Main.p")
  have htwice : twice.Reached compiler Memory.ledger :=
    (hrefusing _ honce).compile .default (.ofString "Main.p")
  refine history_is_forgotten rfl (hrefusing _ htwice) rfl (fun module => ?_) (fun root hroot => ?_)
    rfl rfl rfl (Source.Parser.alike_of_stateless fun _ _ _ _ _ => ⟨rfl, rfl⟩)
  · cases module <;> exact ⟨_, rfl⟩
  · have hname : ProgramName.resolve (.ofString "/work") (.ofString "Main.p") = .ok root := hroot
    cases hname
    show isAnyIn (.ofString "/toolchain") _ = false
    decide +kernel

end MachineCompiler
