import MachineCompiler.Proofs.Compile.Exchanges

/-!
# What a compile leaves behind

Of what a compile does, the files that it writes and the exchanges with its engine that bring files
to be written are followed here. Whatever is said about them only is kept by all actions but those
that render or write.
-/

namespace MachineCompiler

open Action
open Engine (Answer Exchange Request log logged)

variable {σ π α : Type} {engine : ModelEngine σ} {setup : Setup (σ × List (Exchange σ)) π}

/-- The files that an answer brings. -/
def Engine.Answer.files : Answer → List Engine.VirtualFile
  | .rendered result => result.files
  | _ => []

namespace Compile

/-- The exchanges, the root file and its module, the source files, and all files. -/
def traces (compile : Compile (σ × List (Exchange σ)) π) :
    List (Exchange σ) × Option ProgramName × String × List ProgramName × FileSystem :=
  (compile.world.engine.2, compile.product.root, compile.product.rootModule,
    compile.product.files, compile.world.files)

/-- The fact is about the files and what was brought to be written. -/
structure AboutFiles (P : Compile (σ × List (Exchange σ)) π → Prop) : Prop where
  same {first second : Compile (σ × List (Exchange σ)) π} (hsame : first.traces = second.traces)
    (h : P first) : P second
  exchanged {compile : Compile (σ × List (Exchange σ)) π} (request : Request) {answer : Answer}
    (next : σ) (hnone : answer.files = []) (h : P compile) :
    P (compile.exchanged request answer next)

end Compile

namespace Compile.AboutFiles

variable {P : Compile (σ × List (Exchange σ)) π → Prop}

/-- A passive action leaves no traces. -/
theorem passive (hP : AboutFiles P) {action : Action (σ × List (Exchange σ)) π α}
    (h : Passive setup action) : Keeps setup P action :=
  Leaves.keeps h fun first second hsame => hP.same (by
    simp only [substance, custody, Prod.mk.injEq] at hsame
    obtain ⟨⟨hengine, -, -⟩, hroot, hmodule, hsources, hfiles⟩ := hsame
    rw [traces, traces, hengine, hroot, hmodule, hsources, hfiles])

/-- A change of the records leaves no traces. -/
theorem modify (hP : AboutFiles P)
    {change : Compile (σ × List (Exchange σ)) π → Compile (σ × List (Exchange σ)) π}
    (h : ∀ compile, (change compile).traces = compile.traces) :
    Keeps setup P (modify change : Action (σ × List (Exchange σ)) π Unit) :=
  fun compile hcompile => hP.same (h compile).symm hcompile

/-- An operation that brings no files leaves no traces. -/
theorem ask (hP : AboutFiles P) {verb : Engine.Verb} {request : Request} {keep : α → Answer}
    {operation : σ → Except Engine.Error α × σ} (hkeep : ∀ value, (keep value).files = []) :
    Keeps setup P (ask verb (log request keep operation)) :=
  (Triple.ask_log (fun _ value next hcompile _ => hP.exchanged request next (hkeep value) hcompile)
    fun _ _ next hcompile _ => hP.exchanged request next rfl hcompile).keeps

theorem install (hP : AboutFiles P) (hengine : setup.engine = logged engine)
    (program : Engine.Program) : Keeps setup P (install program) := by
  refine .read_bind ?_
  rw [hengine]
  exact .bind (hP.ask fun _ => rfl) fun _ => .ite .fail .pure

theorem install_temporary (hP : AboutFiles P) (hengine : setup.engine = logged engine)
    (program : Engine.Program) : Keeps setup P (installTemporary program) :=
  .bind (hP.install hengine program) fun _ => hP.modify fun _ => rfl

theorem uninstall (hP : AboutFiles P) (hengine : setup.engine = logged engine)
    (names : List ProgramName) : Keeps setup P (uninstall names) := by
  cases names with
  | nil => exact .pure
  | cons first rest =>
    refine .read_bind ?_
    rw [hengine]
    exact .bind (hP.ask fun _ => rfl) fun _ => .ite (hP.modify fun _ => rfl) .fail

theorem ensure_support (hP : AboutFiles P) (hengine : setup.engine = logged engine)
    (modules : List SupportModule) : Keeps setup P (ensureSupport modules) := by
  refine .ensure_support (fun module compile program cache hcompile _ _ => ?_) modules
  have hloaded : P { compile with cache } := hP.same (by rfl) hcompile
  refine ((hP.install hengine program).triple _ hloaded).mono (fun _ _ => ?_) fun _ _ => id
  exact hP.same (by rfl)

theorem apply (hP : AboutFiles P) (hengine : setup.engine = logged engine) (step : Engine.Step) :
    Keeps setup P (apply step) := by
  refine .read_bind ?_
  rw [hengine]
  exact .bind (hP.ask fun _ => rfl) fun _ => .bind (hP.passive Passive.add_flags) fun _ => .pure

theorem run_check_with (hP : AboutFiles P) (hengine : setup.engine = logged engine)
    (patterns : List Phase.ErrorPattern) : Keeps setup P (Phase.runCheckWith patterns) := by
  refine .read_bind (.bind (hP.passive .root) fun root => .bind .product fun product => ?_)
  rw [hengine]
  exact .bind (hP.ask fun _ => rfl) fun outcome =>
    hP.passive (Phase.weigh_passive outcome root patterns)

theorem install_typed_model (hP : AboutFiles P) (hengine : setup.engine = logged engine) :
    Keeps setup P Phase.installTypedModel := by
  refine .bind (hP.ensure_support hengine _) fun _ => .bind .product fun product => ?_
  refine .bind (hP.passive .support_reference) fun transform =>
    .bind (hP.passive .root_reference) fun root => .bind (hP.apply hengine _) fun result =>
      .bind (hP.passive .extract_with) fun program => ?_
  exact .bind (hP.install_temporary hengine _) fun _ => .pure

/-- Every one of some facts may be the one that holds. -/
theorem of_exists {ι : Type} {P : ι → Compile (σ × List (Exchange σ)) π → Prop}
    (h : ∀ index, AboutFiles (P index)) : AboutFiles fun compile => ∃ index, P index compile where
  same hsame := Exists.imp fun index => (h index).same hsame
  exchanged request _ next hnone := Exists.imp fun index => (h index).exchanged request next hnone

end Compile.AboutFiles

end MachineCompiler
