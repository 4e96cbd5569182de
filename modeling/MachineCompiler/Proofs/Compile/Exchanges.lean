import MachineCompiler.Proofs.Compile.Tracking
import MachineCompiler.Proofs.Engine.Exchanges

/-!
# The exchanges of a compile

The engine is reached through its operations only. So whatever each of them keeps of the state of
the engine is kept by every action that is made of them, and every request to an engine that is
logged is found in its log.
-/

namespace MachineCompiler

open Action
open Engine (Answer Exchange Request log)

variable {σ π α β : Type}

/-- The compile after one more exchange with its engine. -/
def Compile.exchanged (compile : Compile (σ × List (Exchange σ)) π) (request : Request)
    (answer : Answer) (next : σ) : Compile (σ × List (Exchange σ)) π :=
  { compile with world := { compile.world with
    engine := (next, compile.world.engine.2 ++ [⟨compile.world.engine.1, request, answer⟩]) } }

/-- A request to an engine that is logged is settled by looking at its result. -/
theorem Action.Triple.ask_log {setup : Setup (σ × List (Exchange σ)) π} {verb : Engine.Verb}
    {request : Request} {keep : α → Answer} {operation : σ → Except Engine.Error α × σ}
    {P : Compile (σ × List (Exchange σ)) π → Prop}
    {Q : α → Compile (σ × List (Exchange σ)) π → Prop}
    {E : Failure → Compile (σ × List (Exchange σ)) π → Prop}
    (hvalue : ∀ compile value next, P compile →
      operation compile.world.engine.1 = (.ok value, next) →
        Q value (compile.exchanged request (keep value) next))
    (herror : ∀ compile error next, P compile →
      operation compile.world.engine.1 = (.error error, next) →
        E (.compiler (.engine verb error))
          (compile.exchanged request (.failed request.verb error) next)) :
    Triple setup P (ask verb (log request keep operation)) Q E := by
  intro compile hP
  rw [run_ask]
  unfold log
  rcases hresult : operation compile.world.engine.1 with ⟨error | value, next⟩
  · exact herror compile error next hP hresult
  · exact hvalue compile value next hP hresult

namespace Action

variable {setup : Setup σ π} {P : σ → Prop}

theorem install_conserves (hP : setup.engine.Preserves P) (program : Engine.Program) :
    Keeps setup (fun compile => P compile.world.engine) (install program) :=
  .install fun compile => hP.install program compile.world.engine

/-- What all operations of the engine keep of its state is kept by everything that a compile does
with it. -/
theorem upkeep_engine (hP : setup.engine.Preserves P) :
    Upkeep setup (fun (_ : Unit) compile => P compile.world.engine) fun _ _ => True where
  quiet h _ := h.keeps fun first second hsame hfirst => by
    have hengine : first.world.engine = second.world.engine := congrArg Prod.fst hsame
    rwa [← hengine]
  query name module goals _ := .ask fun compile => hP.query name module goals compile.world.engine
  apply step _ := .ask fun compile => hP.apply step compile.world.engine
  render name module _ := .ask fun compile => hP.render name module compile.world.engine
  install _ _ := ((install_conserves hP _).triple.bind fun _ _ hP => ⟨hP, trivial⟩)
  uninstall _ := .read_bind (.bind (.ask fun compile => hP.uninstall _ compile.world.engine)
    fun _ => .ite (fun _ h => h) .fail)

theorem ensure_support_conserves (hP : setup.engine.Preserves P) (modules : List SupportModule) :
    Keeps setup (fun compile => P compile.world.engine) (ensureSupport modules) := by
  refine .ensure_support (fun module compile program cache hcompile _ _ => ?_) modules
  exact (install_conserves hP program).triple _ hcompile

end Action

namespace Phase

variable {setup : Setup σ π} {P : σ → Prop}

/-- What all operations of the engine keep of its state, all phases keep. -/
theorem built_in_conserves (hP : setup.engine.Preserves P) :
    ∀ phase ∈ (Pipeline.builtIn : List (Phase σ π)),
      Keeps setup (fun compile => P compile.world.engine) phase.run := by
  have hphases := built_in_keeps (upkeep_engine hP) (by
    simpa only [exists_const] using ensure_support_conserves hP)
  simpa only [exists_const] using hphases

end Phase

end MachineCompiler
