import MachineCompiler.Proofs.Compile.Custody
import MachineCompiler.Proofs.Compile.Dealings

/-!
# Tracking what is installed

Every phase keeps the records about the engine exact, wherever it fails. Phases that install a
program for a while rely on the fact that no support module is marked in between: what they
remove again is then no support program.
-/

namespace MachineCompiler

open Engine (Program Ledger Verb)

variable {σ π α : Type}

/-- The records of a compile agree with the engine. -/
def Compile.Exact (ledger : Ledger σ) (setup : Setup σ π) (compile : Compile σ π) : Prop :=
  MachineCompiler.Exact ledger setup.toolchain.supportDirectory compile.world.engine compile.cache
    compile.installed

namespace Action

variable {ledger : Ledger σ} {setup : Setup σ π}

/-- The records are exact, and the given support modules are marked. -/
def ExactWith (ledger : Ledger σ) (setup : Setup σ π) (support : List SupportModule)
    (compile : Compile σ π) : Prop :=
  compile.Exact ledger setup ∧ compile.installed.support = support

/-- The action keeps the records exact and marks no support module. -/
def Tracks (ledger : Ledger σ) (setup : Setup σ π) (action : Action σ π α) : Prop :=
  ∀ support, Keeps setup (ExactWith ledger setup support) action

variable {support : List SupportModule}

theorem Tracks.exact {action : Action σ π α} (h : Tracks ledger setup action) :
    Keeps setup (Compile.Exact ledger setup) action :=
  fun compile hexact => (h compile.installed.support compile ⟨hexact, rfl⟩).1

theorem Tracks.quiet {action : Action σ π α} (h : Quiet setup action) :
    Tracks ledger setup action := by
  refine fun support => h.keeps fun first second hsame hexact => ?_
  simp only [Compile.custody, Prod.mk.injEq] at hsame
  obtain ⟨hengine, hcache, hinstalled⟩ := hsame
  rw [ExactWith, Compile.Exact, hengine, hcache, hinstalled] at hexact
  exact hexact

/-- Asking the engine for what leaves its ledger alone keeps the records exact. -/
theorem Tracks.ask {verb : Verb} {operation : σ → Except Engine.Error α × σ}
    (h : ∀ state, ledger.sound state → ledger.Same state (operation state).2) :
    Tracks ledger setup (Action.ask verb operation) :=
  fun _ => .ask fun _ hexact => ⟨hexact.1.same (h _ hexact.1.sound), hexact.2⟩

/-! ## Installing and removing -/

/-- An install is an answer of the engine, and a failure unless it was carried out. -/
theorem run_install (program : Program) (compile : Compile σ π) :
    (install program).run setup compile =
      let (answer, engine) := setup.engine.install program compile.world.engine
      let after := { compile with world := { compile.world with engine } }
      match answer with
      | .error error => (.error (.compiler (.engine .install error)), after)
      | .ok outcome =>
        if outcome.succeeded then (.ok (), after)
        else (.error (.compiler (.install program.name (refusal outcome))), after) := by
  unfold install
  rw [run_bind]
  show (Action.run (_ >>= _) _ _) = _
  rw [run_bind, run_ask]
  rcases setup.engine.install program compile.world.engine with
    ⟨_ | ⟨_ | _, _⟩, _⟩ <;> rfl

/-- A marked module is skipped. -/
theorem run_ensure_support_marked {module : SupportModule} {compile : Compile σ π}
    (h : module ∈ compile.installed.support) (rest : List SupportModule) :
    (ensureSupport (module :: rest)).run setup compile =
      (ensureSupport rest).run setup compile := by
  have hhas : compile.installed.hasSupport module = true := List.contains_iff_mem.2 h
  show Action.run (if (!compile.installed.hasSupport module) = true then _ else _) _ _ = _
  rw [hhas]
  rfl

/-- A module that is not marked is loaded, installed and marked, up to the first failure. -/
theorem run_ensure_support_unmarked {module : SupportModule} {compile : Compile σ π}
    (h : module ∉ compile.installed.support) (rest : List SupportModule) :
    (ensureSupport (module :: rest)).run setup compile =
      match compile.cache.load compile.world.files module setup.toolchain.supportDirectory with
      | .error reason => (.error (.compiler (.support module reason)), compile)
      | .ok (program, cache) =>
        Action.run (do
          install program
          modify fun compile =>
            { compile with installed := compile.installed.markSupport module }
          ensureSupport rest) setup { compile with cache } := by
  have hhas : compile.installed.hasSupport module = false := by
    rw [← Bool.not_eq_true]
    exact fun hhas => h (List.contains_iff_mem.1 hhas)
  show Action.run (if (!compile.installed.hasSupport module) = true then _ else _) _ _ = _
  rw [hhas]
  cases compile.cache.load compile.world.files module setup.toolchain.supportDirectory <;> rfl

/-- What holds after every single attempt to supply a support module holds after supplying many.
Between an install and the mark the records are behind, so the fact is about the records as they are
about to be. -/
theorem Keeps.ensure_support {Q : Compile σ π → Prop}
    (hsupply : ∀ module compile program cache, Q compile → module ∉ compile.installed.support →
      compile.cache.load compile.world.files module setup.toolchain.supportDirectory =
        .ok (program, cache) →
      After (fun (_ : Unit) after =>
          Q { after with installed := after.installed.markSupport module })
        (fun _ => Q) ((Action.install program).run setup { compile with cache }))
    (modules : List SupportModule) : Keeps setup Q (ensureSupport modules) := by
  induction modules with
  | nil => exact .pure
  | cons module rest ih =>
    intro compile hcompile
    by_cases hmarked : module ∈ compile.installed.support
    · rw [run_ensure_support_marked hmarked]
      exact ih compile hcompile
    · rw [run_ensure_support_unmarked hmarked]
      cases hload : compile.cache.load compile.world.files module
        setup.toolchain.supportDirectory with
      | error reason => exact hcompile
      | ok loaded =>
        have hinstalled := hsupply module compile loaded.1 loaded.2 hcompile hmarked hload
        dsimp only
        rw [run_bind]
        rcases hrun : (Action.install loaded.1).run setup { compile with cache := loaded.2 } with
            ⟨_ | _, after⟩ <;> rw [hrun] at hinstalled
        · exact hinstalled
        · exact ih _ hinstalled

/-- An uninstall is an answer of the engine, and what it has removed is tracked no longer. -/
theorem run_uninstall (first : ProgramName) (rest : List ProgramName) (compile : Compile σ π) :
    (uninstall (first :: rest)).run setup compile =
      let (answer, engine) := setup.engine.uninstall (first :: rest) compile.world.engine
      let after := { compile with world := { compile.world with engine } }
      match answer with
      | .error error => (.error (.compiler (.engine .uninstall error)), after)
      | .ok outcome =>
        if outcome.succeeded then
          (.ok (), { after with installed := compile.installed.untrackAll (first :: rest) })
        else (.error (.compiler (.uninstall first (refusal outcome))), after) := by
  unfold uninstall
  rw [run_bind]
  show (Action.run (_ >>= _) _ _) = _
  rw [run_bind, run_ask]
  rcases setup.engine.uninstall (first :: rest) compile.world.engine with
    ⟨_ | ⟨_ | _, _⟩, _⟩ <;> rfl

/-- An install keeps what can be said about the records, whatever becomes of it: if it was carried
out, the new program is recorded next. -/
theorem install_triple (h : setup.engine.KeepsTo ledger) (program : Program)
    {P : Compile σ π → Prop} {Q : Unit → Compile σ π → Prop} {E : Failure → Compile σ π → Prop}
    (hP : ∀ compile, P compile → ledger.sound compile.world.engine)
    (hQ : ∀ compile engine, P compile → ledger.sound engine →
      Engine.holds (ledger.installed compile.world.engine) program.name = false →
      ledger.installed engine = ledger.installed compile.world.engine ++ [program] →
      Q () { compile with world := { compile.world with engine } })
    (hE : ∀ compile engine failure, P compile → ledger.Same compile.world.engine engine →
      E failure { compile with world := { compile.world with engine } }) :
    Triple setup P (install program) Q E := by
  intro compile hcompile
  have hinstall := h.install program _ (hP compile hcompile)
  rw [run_install]
  rcases hanswer : setup.engine.install program compile.world.engine with
      ⟨_ | ⟨_ | _, _⟩, engine⟩ <;> rw [hanswer] at hinstall
  · exact hE compile engine _ hcompile hinstall
  · exact hE compile engine _ hcompile hinstall
  · exact hQ compile engine hcompile hinstall.1 hinstall.2.1 hinstall.2.2

/-- A program that was installed and tracked is no support program. -/
theorem install_temporary_tracks (h : setup.engine.KeepsTo ledger) (program : Program) :
    Triple setup (ExactWith ledger setup support) (installTemporary program)
      (fun _ compile => ExactWith ledger setup support compile ∧
        ¬Marks support setup.toolchain.supportDirectory program.name)
      (fun _ => ExactWith ledger setup support) := by
  refine (install_triple (Q := fun _ compile =>
      ExactWith ledger setup support
          { compile with installed := compile.installed.track program.name } ∧
        ¬Marks support setup.toolchain.supportDirectory program.name)
    h program (fun _ hexact => hexact.1.sound) ?_ ?_).bind fun _ compile hexact => hexact
  · rintro compile engine ⟨hexact, rfl⟩ hsound hnew hadded
    have hafter := hexact.install_tracked hsound hnew hadded
    -- Tracked and marked names are apart, so the name just tracked is not marked. It stays so as
    -- long as nothing is marked, up to the uninstall.
    have hapart := hafter.apart program.name (Installed.contains_track.2 (.inr BEq.rfl))
    rw [Installed.support_track] at hapart
    exact ⟨⟨hafter, Installed.support_track⟩, hapart⟩
  · exact fun compile engine _ hexact hsame => ⟨hexact.1.same hsame, hexact.2⟩

/-- Removing programs that are no support programs keeps the records exact. -/
theorem uninstall_tracks (h : setup.engine.KeepsTo ledger) (names : List ProgramName)
    (hnames : ∀ name ∈ names, ¬Marks support setup.toolchain.supportDirectory name) :
    Keeps setup (ExactWith ledger setup support) (uninstall names) := by
  rcases names with _ | ⟨first, rest⟩
  · exact .pure
  · rintro compile ⟨hexact, rfl⟩
    have huninstall := h.uninstall (first :: rest) _ hexact.sound
    rw [run_uninstall]
    rcases hanswer : setup.engine.uninstall (first :: rest) compile.world.engine with
        ⟨_ | ⟨_ | _, _⟩, engine⟩ <;> rw [hanswer] at huninstall
    · exact ⟨hexact.same huninstall, rfl⟩
    · exact ⟨hexact.same huninstall, rfl⟩
    · exact ⟨hexact.uninstall hnames huninstall.1 huninstall.2, Installed.support_untrack_all⟩

theorem install_temporary_keeps (h : setup.engine.KeepsTo ledger) (program : Program) :
    Tracks ledger setup (installTemporary program) :=
  fun _ => ((install_temporary_tracks h program).mono (fun _ => id) (fun _ _ => And.left)
    fun _ _ => id).keeps

/-- A support module is marked only after its program was installed. -/
theorem ensure_support_exact (h : setup.engine.KeepsTo ledger) (modules : List SupportModule) :
    Keeps setup (Compile.Exact ledger setup) (ensureSupport modules) := by
  refine .ensure_support (fun module compile program cache hexact _ hload => ?_) modules
  obtain ⟨hname, hmodels, hfaithful⟩ := hexact.faithful.load hload
  have hloaded : { compile with cache }.Exact ledger setup := hexact.with_cache hfaithful
  refine install_triple (P := Compile.Exact ledger setup) h program
    (fun _ hcompile => hcompile.sound) ?_ ?_ _ hloaded
  · exact fun _ _ hcompile hsound hnew hadded =>
      hcompile.install_marked hname hmodels hsound hnew hadded
  · exact fun _ _ _ hcompile hsame => hcompile.same hsame

/-- Exact records and marked support modules are kept by all other dealings with the engine. What
was installed and tracked has a name that is not marked, so it can be removed. -/
theorem upkeep_exact (h : setup.engine.KeepsTo ledger) :
    Upkeep setup (ExactWith ledger setup) fun support name =>
      ¬Marks support setup.toolchain.supportDirectory name where
  quiet hquiet := Tracks.quiet hquiet
  query name module goals := Tracks.ask (h.query name module goals)
  apply step := Tracks.ask (h.apply step)
  render name module := Tracks.ask (h.render name module)
  install _ _ := install_temporary_tracks h _
  uninstall hfree := uninstall_tracks h _ (List.forall_mem_singleton.2 hfree)

theorem exact_iff {compile : Compile σ π} :
    (∃ support, ExactWith ledger setup support compile) ↔ compile.Exact ledger setup :=
  ⟨fun ⟨_, hexact, _⟩ => hexact, fun hexact => ⟨_, hexact, rfl⟩⟩

end Action

/-! ## Compiles -/

namespace Compiler

open Action

variable {ledger : Ledger σ} {setup : Setup σ π}

/-- What is tracked is no support program, so a reset removes no support program. -/
theorem tracked_not_marked {compile : Compile σ π} (h : compile.Exact ledger setup) :
    ∀ name ∈ compile.installed.programs,
      ¬Marks compile.installed.support setup.toolchain.supportDirectory name :=
  fun name hname => h.apart name (Installed.contains_iff.2 ⟨name, hname, BEq.rfl⟩)

theorem reset_exact (h : setup.engine.KeepsTo ledger) :
    Keeps setup (Compile.Exact ledger setup) (reset : Action σ π Unit) := fun compile hexact =>
  (uninstall_tracks h compile.installed.programs (tracked_not_marked hexact) compile
    ⟨hexact, rfl⟩).1

/-- A compile keeps the records exact, whether it succeeds or not. -/
theorem run_phases_exact (h : setup.engine.KeepsTo ledger) (compile : Compile σ π)
    (hexact : compile.Exact ledger setup) : (runPhases setup compile).Exact ledger setup := by
  refine exact_iff.1 (run_phases_keeps (upkeep_exact h) ?_ (fun modules => ?_) (exact_iff.2 hexact))
  · simpa only [exact_iff] using reset_exact h
  · simpa only [exact_iff] using ensure_support_exact h modules

end Compiler

end MachineCompiler
