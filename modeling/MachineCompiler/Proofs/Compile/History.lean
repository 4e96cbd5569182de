import MachineCompiler.Engine.InMemory
import MachineCompiler.Engine.Interference
import MachineCompiler.Proofs.Compile.Tracking
import MachineCompiler.Source.Line

/-!
# Histories of compilers

A session is reached by compiles in any order, with any options and inputs. Between compiles
everything outside the compiler may change except what is installed in the engine, and other
compilers may read support modules into the cache. In every session reached this way the records
of the compiler say exactly what is installed.
-/

namespace MachineCompiler

open Action Engine

variable {σ π : Type}

/-- The sessions that a compiler gets into, starting with nothing installed. -/
inductive Session.Reached (compiler : Compiler σ π) (ledger : Ledger σ) : Session σ π → Prop where
  | start {world : World σ π} (hsound : ledger.sound world.engine)
      (hempty : ledger.installed world.engine = []) : Reached compiler ledger (.start world)
  | compile {session : Session σ π} (hreached : Reached compiler ledger session)
      (options : Options) (input : Path) :
      Reached compiler ledger (compiler.compile options input session).2
  | between {session : Session σ π} (hreached : Reached compiler ledger session)
      {world : World σ π} (hsame : ledger.Same session.world.engine world.engine) :
      Reached compiler ledger { session with world }
  | load {session : Session σ π} (hreached : Reached compiler ledger session)
      {files : FileSystem} {module : SupportModule} {directory : Path} {program : Program}
      {cache : SupportCache}
      (hload : session.cache.load files module directory = .ok (program, cache)) :
      Reached compiler ledger { session with cache }

variable {compiler : Compiler σ π} {ledger : Ledger σ} {session : Session σ π}

/-- The records of a session agree with the engine. -/
def Session.Exact (ledger : Ledger σ) (compiler : Compiler σ π) (session : Session σ π) : Prop :=
  MachineCompiler.Exact ledger compiler.toolchain.supportDirectory session.world.engine
    session.cache session.installed

/-- One compile keeps the records exact. -/
theorem compile_exact (h : compiler.engine.KeepsTo ledger) (hexact : session.Exact ledger compiler)
    (options : Options) (input : Path) :
    (compiler.compile options input session).2.Exact ledger compiler := by
  have hsetup : (compiler.setup options input).engine.KeepsTo ledger := h
  exact Compiler.run_phases_exact hsetup session.begin hexact

/-- The records are exact in every session that is reached. -/
theorem Session.Reached.exact (h : compiler.engine.KeepsTo ledger)
    (hreached : session.Reached compiler ledger) : session.Exact ledger compiler := by
  induction hreached with
  | start hsound hempty => exact .start hsound hempty
  | compile _ options input ih => exact compile_exact h ih options input
  | between _ hsame ih => exact ih.same hsame
  | load _ hload ih => exact ih.with_cache (ih.faithful.load hload).2.2

/-! ## Failures leave the records alone -/

variable {setup : Setup σ π} {compile after : Compile σ π} {failure : Failure}

theorem run_uninstall_failed {names : List ProgramName}
    (h : (uninstall names).run setup compile = (.error failure, after)) :
    after.installed = compile.installed := by
  rcases names with _ | ⟨first, rest⟩
  · cases h
  · rw [run_uninstall] at h
    rcases hanswer : setup.engine.uninstall (first :: rest) compile.world.engine with
        ⟨_ | ⟨_ | _, _⟩, _⟩ <;> rw [hanswer] at h <;> cases h <;> rfl

theorem run_install_temporary_failed {program : Program}
    (h : (installTemporary program).run setup compile = (.error failure, after)) :
    after.installed = compile.installed := by
  unfold installTemporary at h
  rw [run_bind, run_install] at h
  rcases hanswer : setup.engine.install program compile.world.engine with
      ⟨_ | ⟨_ | _, _⟩, _⟩ <;> rw [hanswer] at h <;> cases h <;> rfl

/-! ## Compilers with an engine in memory -/

end MachineCompiler
