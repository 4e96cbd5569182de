import MachineCompiler.Proofs.Compile.Tracking
import MachineCompiler.Proofs.Compile.Twins

/-!
# Twins and their engines

Actions that involve the engine keep compiles twins: asking it about programs that are no support
programs, installing and removing such programs, and supplying support modules, which one of the
compiles may have done before.
-/

namespace MachineCompiler.Action

open Engine (Memory Program Rules inMemory)
open SupportModule (isAnyIn)

variable {σ π α : Type} {setup : Setup Memory π} {start start' : World Memory π}
  {known : List SupportModule}
  {rules : Rules} {program : Program}

theorem keeps_ledger (hengine : setup.engine = inMemory rules) :
    setup.engine.KeepsTo Memory.ledger :=
  hengine ▸ Engine.in_memory_keeps_to rules

/-- An action that keeps the records exact and marks nothing need only be looked at from outside
and with regard to the other programs. -/
theorem twins_of_tracks {action : Action Memory π α} {fact : α → Prop}
    (htracks : Tracks Memory.ledger setup action)
    (h : Parallel setup (Twins setup start start' known) action action
      (fun value first second =>
        (Outside setup start start' first second ∧ Inside setup first second) ∧ fact value)
      (fun first second => Outside setup start start' first second ∧ Inside setup first second)) :
    Yields setup (Twins setup start start' known) action fact := by
  intro first second htwins
  have hfirst := htracks first.installed.support first ⟨htwins.exact, rfl⟩
  have hsecond := htracks second.installed.support second ⟨htwins.exact', rfl⟩
  have hboth := (h first second htwins).and
    (R := fun first' second' => ExactWith Memory.ledger setup first.installed.support first' ∧
      ExactWith Memory.ledger setup second.installed.support second') ⟨hfirst, hsecond⟩
  refine hboth.mono ?_ ?_
  · rintro value first' second' ⟨⟨⟨houtside, hinside⟩, hfact⟩, hexact, hexact'⟩
    exact ⟨⟨houtside, hinside, hexact.1, hexact'.1, hexact.2 ▸ htwins.marked,
      hexact'.2 ▸ htwins.marked'⟩, hfact⟩
  · rintro first' second' ⟨⟨houtside, hinside⟩, hexact, hexact'⟩
    exact ⟨houtside, hinside, hexact.1, hexact'.1, hexact.2 ▸ htwins.marked,
      hexact'.2 ▸ htwins.marked'⟩

theorem steady_of_tracks {action : Action Memory π α} (htracks : Tracks Memory.ledger setup action)
    (h : Parallel setup (Twins setup start start' known) action action
      (fun _ first second => Outside setup start start' first second ∧ Inside setup first second)
      (fun first second => Outside setup start start' first second ∧ Inside setup first second)) :
    Steady setup (Twins setup start start' known) action := by
  have hfact : Yields setup (Twins setup start start' known) action fun _ => True :=
    twins_of_tracks htracks (h.mono (fun _ _ => id) (fun _ _ _ hboth => ⟨hboth, trivial⟩)
      fun _ _ => id)
  exact hfact.steady

/-- A quiet action need only be looked at from outside. -/
theorem twins_of_quiet {action : Action Memory π α} {fact : α → Prop} (hquiet : Quiet setup action)
    (h : Yields setup (Outside setup start start') action fact) :
    Yields setup (Twins setup start start' known) action fact := by
  refine twins_of_tracks (.quiet hquiet) fun first second htwins => ?_
  have hboth := (h first second htwins.outside).and
    (R := fun first' second' => Inside setup first' second')
    (htwins.inside.congr (hquiet _ first rfl) (hquiet _ second rfl))
  exact hboth.mono (fun _ _ _ ⟨⟨houtside, hfact⟩, hinside⟩ => ⟨⟨houtside, hinside⟩, hfact⟩)
    fun _ _ h => h

theorem steady_of_quiet {action : Action Memory π α} (hquiet : Quiet setup action)
    (h : Steady setup (Outside setup start start') action) :
    Steady setup (Twins setup start start' known) action :=
  (twins_of_quiet hquiet h.yields).steady

theorem product_steady : Steady setup (Twins setup start start' known) Action.product :=
  steady_of_quiet .product product_outside

theorem add_flags_steady (flags : List Flag) :
    Steady setup (Twins setup start start' known) (addFlags flags) :=
  steady_of_quiet .add_flags (add_flags_outside flags)

theorem advance_steady (next : Stage) :
    Steady setup (Twins setup start start' known) (advance next) :=
  steady_of_quiet .advance (advance_outside next)

theorem root_twins :
    Yields setup (Twins setup start start' known) root
      (isAnyIn setup.toolchain.supportDirectory · = false) :=
  twins_of_quiet .root root_outside

theorem root_reference_steady : Steady setup (Twins setup start start' known) rootReference :=
  steady_of_quiet .root_reference root_reference_outside

theorem output_directory_steady : Steady setup (Twins setup start start' known) outputDirectory :=
  steady_of_quiet .output_directory output_directory_outside

theorem output_base_steady : Steady setup (Twins setup start start' known) outputBase :=
  steady_of_quiet .output_base output_base_outside

theorem save_steady (path : Path) (text : String) :
    Steady setup (Twins setup start start' known) (save path text) :=
  steady_of_quiet .save (save_outside path text)

theorem extract_with_twins (aliasStart module : String) (result : Engine.ApplyResult) :
    Yields setup (Twins setup start start' known) (extractWith aliasStart result module)
      (isAnyIn setup.toolchain.supportDirectory ·.name = false) :=
  twins_of_quiet .extract_with (extract_with_outside aliasStart module result)

theorem extract_twins (result : Engine.ApplyResult) (module : String) :
    Yields setup (Twins setup start start' known) (extract result module)
      (isAnyIn setup.toolchain.supportDirectory ·.name = false) :=
  extract_with_twins outputAliasStart module result

/-- Asking the engines is steady when they answer alike and their programs stay. -/
theorem ask_steady {verb : Engine.Verb} {operation : Memory → Except Engine.Error α × Memory}
    (htracks : Tracks Memory.ledger setup (ask verb operation : Action Memory π α))
    (h : ∀ first second, Twins setup start start' known first second →
      Memory.Alike setup.toolchain.supportDirectory operation first.world.engine
        second.world.engine) :
    Steady setup (Twins setup start start' known) (ask verb operation) := by
  refine steady_of_tracks htracks fun first second htwins => ?_
  obtain ⟨hanswer, hengines⟩ := h first second htwins
  have houtside : Outside setup start start'
      { first with world := { first.world with engine := (operation first.world.engine).2 } }
      { second with world := { second.world with engine := (operation second.world.engine).2 } } :=
    { htwins.outside with }
  have hinside : Inside setup
      { first with world := { first.world with engine := (operation first.world.engine).2 } }
      { second with world := { second.world with engine := (operation second.world.engine).2 } } :=
    { htwins.inside with engines := hengines }
  rw [run_ask, run_ask, hanswer]
  cases (operation second.world.engine).1 with
  | error error => exact .failure ⟨houtside, hinside⟩
  | ok value => exact .value ⟨houtside, hinside⟩

/-- The transform of a marked support module is not missing. -/
theorem transform_present {directory : Path} {memory : Memory} {cache : SupportCache}
    {installed : Installed} (h : Exact Memory.ledger directory memory cache installed)
    {module : SupportModule} (hmarked : module ∈ installed.support)
    (arguments : List Engine.Argument) (outputs : List String) :
    memory.missingTransform? ⟨module.reference directory, arguments, outputs⟩ = none := by
  obtain ⟨place, hplace⟩ := h.placed module hmarked
  obtain ⟨name, hname, hsame⟩ := ProgramName.of_path_shown hplace
  have hheld : memory.isInstalled name = true :=
    (h.held_iff name).2 (.inr ⟨module, hmarked, place, hplace, BEq.symm hsame⟩)
  simp only [Memory.missingTransform?, SupportModule.reference, Engine.ModuleRef.within, hname,
    hheld, if_true]

/-- A transform of a support module that is marked in both compiles goes the same way. -/
theorem apply_steady (hengine : setup.engine = inMemory rules) {module : SupportModule}
    (hknown : module ∈ known) (arguments : List Engine.Argument) (outputs : List String) :
    Steady setup (Twins setup start start' known)
      (apply ⟨module.reference setup.toolchain.supportDirectory, arguments, outputs⟩) := by
  have hkeeps := keeps_ledger hengine
  refine .read_bind (.bind (ask_steady (.ask (hkeeps.apply _)) fun first second htwins => ?_)
    fun result => ?_)
  · rw [hengine]
    refine htwins.inside.engines.apply ?_
    rw [transform_present htwins.exact (htwins.marked module hknown),
      transform_present htwins.exact' (htwins.marked' module hknown)]
  · exact .bind (add_flags_steady _) fun _ => .pure

/-- The end of an install or uninstall that goes along with a change of the record. -/
def settled (verb : Engine.Verb)
    (operation : σ → Except Engine.Error Engine.InstallOutcome × σ)
    (refused : Engine.InstallOutcome → Failure) (change : Installed → Installed)
    (compile : Compile σ π) : Except Failure Unit × Compile σ π :=
  let (answer, engine) := operation compile.world.engine
  let after := { compile with world := { compile.world with engine } }
  match answer with
  | .error error => (.error (.compiler (.engine verb error)), after)
  | .ok outcome =>
    if outcome.succeeded then (.ok (), { after with installed := change compile.installed })
    else (.error (refused outcome), after)

/-- When the engines answer alike, so do an install and an uninstall end alike. -/
theorem settled_together {first second : Compile Memory π} {verb : Engine.Verb}
    {operation : Memory → Except Engine.Error Engine.InstallOutcome × Memory}
    {refused : Engine.InstallOutcome → Failure} {change : Installed → Installed}
    (h : Twins setup start start' known first second)
    (halike : Memory.Alike setup.toolchain.supportDirectory operation first.world.engine
      second.world.engine)
    (hprograms : (change first.installed).programs = (change second.installed).programs)
    (htracked : ∀ name, (change first.installed).contains name = true →
      isAnyIn setup.toolchain.supportDirectory name = false) :
    Together
      (fun _ first second => Outside setup start start' first second ∧ Inside setup first second)
      (fun first second => Outside setup start start' first second ∧ Inside setup first second)
      (settled verb operation refused change first)
      (settled verb operation refused change second) := by
  obtain ⟨hanswer, hengines⟩ := halike
  unfold settled
  rcases hrun : operation first.world.engine with ⟨answer, engine⟩
  rcases hrun' : operation second.world.engine with ⟨answer', engine'⟩
  rw [hrun, hrun'] at hanswer hengines
  obtain rfl : answer = answer' := hanswer
  rcases answer with error | ⟨_ | _, flags⟩
  · exact .failure ⟨{ h.outside with }, { h.inside with engines := hengines }⟩
  · exact .failure ⟨{ h.outside with }, { h.inside with engines := hengines }⟩
  · exact .value ⟨{ h.outside with }, hengines, hprograms, htracked⟩

/-- A program that was installed is tracked; it is not when the install was a failure. -/
theorem run_install_temporary (program : Program) (compile : Compile Memory π) :
    (installTemporary program).run setup compile =
      settled .install (setup.engine.install program)
        (fun outcome => .compiler (.install program.name (refusal outcome)))
        (·.track program.name) compile := by
  unfold installTemporary settled
  rw [run_bind, run_install]
  rcases setup.engine.install program compile.world.engine with ⟨_ | ⟨_ | _, _⟩, _⟩ <;> rfl

/-- Nothing keeps a program with a new name from being installed in a plain memory. -/
theorem run_install_new (hengine : setup.engine = inMemory rules) {compile : Compile Memory π}
    (hplain : compile.world.engine.Plain setup.toolchain.supportDirectory)
    (hnew : compile.world.engine.isInstalled program.name = false) :
    (installTemporary program).run setup compile = (.ok (), { compile with
      world := { compile.world with
        engine := { compile.world.engine.record (.install program.name) with
          installed := compile.world.engine.installed ++ [program] } }
      installed := compile.installed.track program.name }) := by
  rw [run_install_temporary, settled, hengine, hplain.install_new hnew]
  rfl

/-- A program that is no support program is installed and tracked in both compiles or in none. -/
theorem install_temporary_steady (hengine : setup.engine = inMemory rules)
    (hname : isAnyIn setup.toolchain.supportDirectory program.name = false) :
    Steady setup (Twins setup start start' known) (installTemporary program) := by
  have hkeeps := keeps_ledger hengine
  refine steady_of_tracks (install_temporary_keeps hkeeps program) fun first second htwins => ?_
  rw [run_install_temporary, run_install_temporary, hengine]
  refine settled_together htwins (htwins.inside.engines.install hname) ?_ fun name hcontains => ?_
  · unfold Installed.track Installed.contains
    rw [htwins.inside.programs]
    split
    · exact htwins.inside.programs
    · rfl
  · obtain hold | hnew := Installed.contains_track.1 hcontains
    · exact htwins.inside.tracked name hold
    · exact (SupportModule.is_any_in_congr hnew).symm.trans hname

/-- A program that is no support program is removed in both compiles or in none. -/
theorem uninstall_steady (hengine : setup.engine = inMemory rules) {name : ProgramName}
    (hname : isAnyIn setup.toolchain.supportDirectory name = false) :
    Steady setup (Twins setup start start' known) (uninstall [name]) := by
  have hkeeps := keeps_ledger hengine
  have htracks : Tracks Memory.ledger setup (uninstall [name] : Action Memory π Unit) :=
    fun support => uninstall_tracks hkeeps [name] (List.forall_mem_singleton.2
      (SupportModule.not_marks_of_not_any hname))
  have hrun (compile : Compile Memory π) : (uninstall [name]).run setup compile =
      settled .uninstall (setup.engine.uninstall [name])
        (fun outcome => .compiler (.uninstall name (refusal outcome)))
        (·.untrackAll [name]) compile :=
    run_uninstall name [] compile
  refine steady_of_tracks htracks fun first second htwins => ?_
  rw [hrun, hrun, hengine]
  refine settled_together htwins
    (htwins.inside.engines.uninstall (List.forall_mem_singleton.2 hname)) ?_ fun other hother => ?_
  · exact congrArg (List.filter _) htwins.inside.programs
  · exact htwins.inside.tracked other (Installed.contains_untrack_all.1 hother).1

/-! ## Support modules -/

/-- The support module is marked now, and other programs are installed and tracked as before. -/
structure Supplied (setup : Setup Memory π) (module : SupportModule) (compile : Compile Memory π)
    (memory : Memory) (cache : SupportCache) (installed : Installed) : Prop where
  plain : memory.Plain setup.toolchain.supportDirectory
  own : memory.own setup.toolchain.supportDirectory =
    compile.world.engine.own setup.toolchain.supportDirectory
  programs : installed.programs = compile.installed.programs
  exact : Exact Memory.ledger setup.toolchain.supportDirectory memory cache installed
  marked : module ∈ installed.support
  kept : ∀ other ∈ compile.installed.support, other ∈ installed.support

/-- Twins in which one more support module was supplied are twins. -/
theorem supplied_twins {first second : Compile Memory π} {module : SupportModule}
    {engine engine' : Memory} {cache cache' : SupportCache} {installed installed' : Installed}
    (h : Twins setup start start' known first second)
    (hsupplied : Supplied setup module first engine cache installed)
    (hsupplied' : Supplied setup module second engine' cache' installed') :
    Twins setup start start' (module :: known)
      { first with world := { first.world with engine }, cache, installed }
      { second with
        world := { second.world with engine := engine' }, cache := cache', installed := installed' }
    where
  outside := { h.outside with }
  inside := {
    engines := ⟨hsupplied.plain, hsupplied'.plain,
      hsupplied.own.trans (h.inside.engines.same.trans hsupplied'.own.symm)⟩
    programs := hsupplied.programs.trans (h.inside.programs.trans hsupplied'.programs.symm)
    tracked := fun name hcontains => h.inside.tracked name (by
      rw [Installed.contains, ← hsupplied.programs]
      exact hcontains) }
  exact := hsupplied.exact
  exact' := hsupplied'.exact
  marked := List.forall_mem_cons.2
    ⟨hsupplied.marked, fun other hother => hsupplied.kept other (h.marked other hother)⟩
  marked' := List.forall_mem_cons.2
    ⟨hsupplied'.marked, fun other hother => hsupplied'.kept other (h.marked' other hother)⟩

/-- What happens to one support module whose file can be read, whether it is marked already or not:
it is supplied when its place names a program, and all ends with a failure when it does not. -/
theorem run_ensure_support_cons (hengine : setup.engine = inMemory rules) {module : SupportModule}
    (rest : List SupportModule) {compile : Compile Memory π}
    (hexact : compile.Exact Memory.ledger setup)
    (hplain : compile.world.engine.Plain setup.toolchain.supportDirectory)
    (htracked : ∀ name, compile.installed.contains name = true →
      isAnyIn setup.toolchain.supportDirectory name = false) {text : String}
    (hread : compile.world.files.readText (module.location setup.toolchain.supportDirectory)
      = .ok text) :
    match ProgramName.ofPath (module.location setup.toolchain.supportDirectory) with
    | .ok _ => ∃ engine cache installed, Supplied setup module compile engine cache installed ∧
        (ensureSupport (module :: rest)).run setup compile =
          (ensureSupport rest).run setup
            { compile with world := { compile.world with engine }, cache, installed }
    | .error reason => (ensureSupport (module :: rest)).run setup compile =
        (.error (.compiler (.support module (.badLocation reason))), compile) := by
  -- A marked module is skipped and is supplied already. One that is not marked is installed, which
  -- the engine cannot refuse: its name is neither tracked nor that of another marked module.
  by_cases hmarked : module ∈ compile.installed.support
  · obtain ⟨place, hplace⟩ := hexact.placed module hmarked
    rw [hplace]
    exact ⟨compile.world.engine, compile.cache, compile.installed,
      ⟨hplain, rfl, rfl, hexact, hmarked, fun _ => id⟩, run_ensure_support_marked hmarked rest⟩
  · have hload := hexact.faithful.load_readable hread
    cases hplace : ProgramName.ofPath (module.location setup.toolchain.supportDirectory) with
    | error reason =>
      rw [hplace] at hload
      rw [run_ensure_support_unmarked hmarked, hload]
    | ok place =>
      rw [hplace] at hload
      obtain ⟨program, cache, hloaded⟩ := hload
      obtain ⟨hname, hmodels, hfaithful⟩ := hexact.faithful.load hloaded
      have hin : module.IsIn setup.toolchain.supportDirectory program.name :=
        ⟨program.name, hname, BEq.rfl⟩
      have hsupport := SupportModule.is_any_in_iff.2 ⟨module, hin⟩
      have hnew : compile.world.engine.isInstalled program.name = false := by
        rw [← Bool.not_eq_true]
        intro hheld
        obtain hcontains | ⟨other, hother, hin'⟩ := (hexact.held_iff _).1 hheld
        · rw [htracked _ hcontains] at hsupport
          contradiction
        · exact hmarked (SupportModule.IsIn.unique hin hin' ▸ hother)
      refine ⟨{ compile.world.engine.record (.install program.name) with
          installed := compile.world.engine.installed ++ [program] }, cache,
        compile.installed.markSupport module, ?_, ?_⟩
      · exact {
          plain := (hplain.record _).append fun _ => hmodels
          own := Memory.own_append_support hsupport _
          programs := Installed.programs_mark_support
          exact := (hexact.with_cache hfaithful).install_marked hname hmodels trivial hnew rfl
          marked := Installed.mem_mark_support.2 (.inr rfl)
          kept := fun other hother => Installed.mem_mark_support.2 (.inl hother) }
      · rw [run_ensure_support_unmarked hmarked, hloaded]
        show Action.run (install program >>= _) _ _ = _
        rw [run_bind, run_install, hengine, hplain.install_new hnew]
        rfl

/-- Support modules are supplied in both compiles, whichever were marked before, or in none. -/
theorem ensure_support_twins (hengine : setup.engine = inMemory rules)
    (modules : List SupportModule) :
    Parallel setup (Twins setup start start' known) (ensureSupport modules) (ensureSupport modules)
      (fun _ => Twins setup start start' (modules ++ known)) (Twins setup start start' known) := by
  induction modules generalizing known with
  | nil => exact Parallel.pure fun _ _ h => h
  | cons module rest ih =>
    intro first second htwins
    have htracked' (name : ProgramName) (hcontains : second.installed.contains name = true) :
        isAnyIn setup.toolchain.supportDirectory name = false := by
      refine htwins.inside.tracked name ?_
      rw [Installed.contains, htwins.inside.programs]
      exact hcontains
    obtain ⟨text, hread⟩ := htwins.outside.readable module
    have hread' := htwins.outside.files ▸ hread
    have hfirst := run_ensure_support_cons hengine rest htwins.exact htwins.inside.engines.plain
      htwins.inside.tracked hread
    have hsecond := run_ensure_support_cons hengine rest htwins.exact'
      htwins.inside.engines.plain' htracked' hread'
    cases hplace : ProgramName.ofPath (module.location setup.toolchain.supportDirectory) with
    | error reason =>
      rw [hplace] at hfirst hsecond
      rw [hfirst, hsecond]
      exact .failure htwins
    | ok place =>
      rw [hplace] at hfirst hsecond
      -- The two compiles may do different things for the module, but afterwards it is supplied in
      -- both.
      obtain ⟨engine, cache, installed, hsupplied, hrun⟩ := hfirst
      obtain ⟨engine', cache', installed', hsupplied', hrun'⟩ := hsecond
      rw [hrun, hrun']
      refine (ih _ _ (supplied_twins htwins hsupplied hsupplied')).mono ?_ ?_
      · exact fun _ _ _ h => h.mono fun other hother => by simpa [or_left_comm] using hother
      · exact fun _ _ h => h.mono fun other hother => List.mem_cons_of_mem _ hother

end MachineCompiler.Action
