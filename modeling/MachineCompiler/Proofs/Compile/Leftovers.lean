import MachineCompiler.Proofs.Compile.Exchanges
import MachineCompiler.Proofs.Compile.OutputNames
import MachineCompiler.Proofs.Engine.Readiness

/-!
# What is left of the installed programs

A compile installs programs of three kinds. Support programs stay for good, products stay until the
next compile, and the programs of outputs that are only rendered or linked are removed again by the
action that installs them. So as long as no removal fails, the tracked programs are the products
that were installed, in the order of their installation, wherever an action ends.
-/

namespace MachineCompiler

open Action
open Engine (Answer Exchange Ledger Program Request holds logged without)

variable {σ π α β : Type}

/-! ## Installs and removals -/

namespace Engine

/-- The programs that were installed, in order. -/
def installs (exchanges : List (Exchange σ)) : List Program :=
  exchanges.filterMap Exchange.installed?

/-- If programs were to be removed, they were. -/
def Exchange.removes (exchange : Exchange σ) : Bool :=
  match exchange.request, exchange.answer with
  | .uninstall _, .uninstalled outcome => outcome.succeeded
  | .uninstall _, _ => false
  | _, _ => true

theorem installs_append (exchanges : List (Exchange σ)) (exchange : Exchange σ) :
    installs (exchanges ++ [exchange]) = installs exchanges ++ exchange.installed?.toList := by
  rw [installs, List.filterMap_append]
  cases hinstalled : exchange.installed? <;> simp [installs, hinstalled]

/-- The programs have different names. -/
def Distinct (programs : List Program) : Prop :=
  programs.Pairwise fun first second => (first.name == second.name) = false

theorem distinct_append {programs : List Program} {program : Program} :
    Distinct (programs ++ [program]) ↔
      Distinct programs ∧ ∀ other ∈ programs, (other.name == program.name) = false := by
  simp [Distinct, List.pairwise_append]

/-- A program with a new name is the only one that is gone when it was removed. -/
theorem without_append {programs : List Program} {program : Program}
    (h : Distinct (programs ++ [program])) :
    without (programs ++ [program]) [program.name] = programs := by
  have hnew := (distinct_append.1 h).2
  have hkept : programs.filter (fun other => !([program.name].any (other.name == ·))) = programs :=
    List.filter_eq_self.2 fun other hother => by simp [hnew other hother]
  rw [without, List.filter_append, hkept]
  simp

end Engine

open Engine (installs)

/-! ## Tracked programs -/

/-- The installed programs that are tracked. -/
def Installed.tracked (installed : Installed) (programs : List Program) : List Program :=
  programs.filter fun program => installed.contains program.name

namespace Installed

variable {installed : Installed} {programs : List Program} {program : Program}

/-- A program with a new name is the only one that is tracked in addition. -/
theorem tracked_track (h : holds programs program.name = false) :
    (installed.track program.name).tracked (programs ++ [program]) =
      installed.tracked programs ++ [program] := by
  have hnew : ∀ other ∈ programs, (program.name == other.name) = false := by
    intro other hother
    rw [BEq.comm]
    exact List.any_eq_false.1 h other hother |> Bool.eq_false_iff.2
  rw [tracked, List.filter_append]
  refine congrArg₂ (· ++ ·) (List.filter_congr fun other hother => ?_) ?_
  · rw [Bool.eq_iff_iff, contains_track, hnew other hother]
    simp
  · exact List.filter_eq_self.2 (List.forall_mem_singleton.2 (contains_track.2 (.inr BEq.rfl)))

/-- A program that is installed and not tracked makes no difference. -/
theorem tracked_append (h : installed.contains program.name = false) :
    installed.tracked (programs ++ [program]) = installed.tracked programs := by
  simp [tracked, h]

theorem tracked_mark_support {module : SupportModule} :
    (installed.markSupport module).tracked programs = installed.tracked programs := by
  simp only [tracked, contains, programs_mark_support]

/-- What was removed is neither installed nor tracked. -/
theorem tracked_untrack_all (names : List ProgramName) :
    (installed.untrackAll names).tracked (without programs names) =
      without (installed.tracked programs) names := by
  simp only [tracked, without, List.filter_filter]
  refine List.filter_congr fun other _ => ?_
  rw [Bool.eq_iff_iff, Bool.and_eq_true, Bool.and_eq_true, contains_untrack_all,
    Bool.not_eq_true']
  tauto

/-- Nothing is tracked once all that is tracked was removed. -/
theorem tracked_untrack_programs : (installed.untrackAll installed.programs).tracked
    (without programs installed.programs) = [] := by
  refine List.filter_eq_nil_iff.2 fun program _ hcontains => ?_
  obtain ⟨hheld, hkept⟩ := contains_untrack_all.1 hcontains
  obtain ⟨tracked, hmem, hsame⟩ := contains_iff.1 hheld
  exact Bool.eq_false_iff.1 hkept (List.any_eq_true.2 ⟨tracked, hmem, BEq.symm hsame⟩)

end Installed

/-! ## Accounts -/

/-- What the names of the modules end with whose programs are installed for a while only. -/
def Phase.passingEndings : List String :=
  ["_CModel", "_LinkModel", "_CLinkModel", "_ZingModel"]

/-- The program is that of an output which is installed for a while only. -/
def IsPassing (directory : Path) (rootModule : String) (program : Program) : Prop :=
  ∃ ending ∈ Phase.passingEndings, Phase.outputName directory rootModule ending = .ok program.name

/-- The program holds a support module. -/
def IsSupport (directory : Path) (program : Program) : Prop :=
  program.models = [] ∧ SupportModule.isAnyIn directory program.name = true

/-- If all removals were carried out, the tracked programs are the products, which have different
names and were installed, and every other program that was installed is an extra one. -/
def Accounts (isExtra : Program → Prop) (exchanges : List (Exchange σ))
    (tracked products : List Program) : Prop :=
  (∀ exchange ∈ exchanges, exchange.removes = true) →
    tracked = products ∧ Engine.Distinct products ∧
      (∀ program ∈ products, program ∈ installs exchanges) ∧
        ∀ program ∈ installs exchanges, isExtra program ∨ program ∈ products

namespace Accounts

variable {isExtra : Program → Prop} {exchanges : List (Exchange σ)} {exchange : Exchange σ}
  {tracked products : List Program} {program : Program}

theorem start (h : tracked = []) : Accounts isExtra ([] : List (Exchange σ)) tracked [] :=
  fun _ => ⟨h, .nil, List.forall_mem_nil _, List.forall_mem_nil _⟩

/-- Nothing is accounted for after a removal that has failed. -/
theorem failed (h : exchange.removes = false) :
    Accounts isExtra (exchanges ++ [exchange]) tracked products :=
  fun hremoves => absurd (hremoves exchange (by simp)) (Bool.eq_false_iff.1 h)

/-- An exchange that installs nothing changes nothing. -/
theorem other (h : Accounts isExtra exchanges tracked products)
    (hnone : exchange.installed? = none) :
    Accounts isExtra (exchanges ++ [exchange]) tracked products := by
  intro hremoves
  rw [Engine.installs_append, hnone, Option.toList_none, List.append_nil]
  exact h (List.forall_mem_append.1 hremoves).1

/-- An extra program was installed. -/
theorem extra (h : Accounts isExtra exchanges tracked products)
    (hsome : exchange.installed? = some program) (hextra : isExtra program) :
    Accounts isExtra (exchanges ++ [exchange]) tracked products := by
  intro hremoves
  obtain ⟨htracked, hdistinct, hmem, hkind⟩ := h (List.forall_mem_append.1 hremoves).1
  rw [Engine.installs_append, hsome, Option.toList_some]
  exact ⟨htracked, hdistinct, fun other hother => List.mem_append_left _ (hmem other hother),
    List.forall_mem_append.2 ⟨hkind, List.forall_mem_singleton.2 (.inl hextra)⟩⟩

/-- One more product was installed, under a new name. -/
theorem product (h : Accounts isExtra exchanges tracked products)
    (hsome : exchange.installed? = some program)
    (hnew : ∀ other ∈ tracked, (other.name == program.name) = false) :
    Accounts isExtra (exchanges ++ [exchange]) (tracked ++ [program]) (products ++ [program]) := by
  intro hremoves
  obtain ⟨rfl, hdistinct, hmem, hkind⟩ := h (List.forall_mem_append.1 hremoves).1
  rw [Engine.installs_append, hsome, Option.toList_some]
  refine ⟨rfl, Engine.distinct_append.2 ⟨hdistinct, hnew⟩, fun other hother => ?_, ?_⟩
  · exact (List.mem_append.1 hother).elim (fun hold => List.mem_append_left _ (hmem other hold))
      (List.mem_append_right _)
  · exact List.forall_mem_append.2
      ⟨fun other hother => (hkind other hother).imp_right (List.mem_append_left _),
        List.forall_mem_singleton.2 (.inr (by simp))⟩

/-- The last product was an extra program, and is removed. -/
theorem removed (h : Accounts isExtra exchanges tracked (products ++ [program]))
    (hnone : exchange.installed? = none) (hextra : isExtra program) :
    Accounts isExtra (exchanges ++ [exchange]) (without tracked [program.name]) products := by
  intro hremoves
  obtain ⟨rfl, hdistinct, hmem, hkind⟩ := h (List.forall_mem_append.1 hremoves).1
  rw [Engine.installs_append, hnone, Option.toList_none, List.append_nil]
  refine ⟨Engine.without_append hdistinct, (Engine.distinct_append.1 hdistinct).1,
    fun other hother => hmem other (List.mem_append_left _ hother), fun other hother => ?_⟩
  obtain hkind | hproduct := hkind other hother
  · exact .inl hkind
  · obtain hproduct | hprogram := List.mem_append.1 hproduct
    · exact .inr hproduct
    · exact .inl (List.mem_singleton.1 hprogram ▸ hextra)

end Accounts

/-- The program is no product of a compile: a support program, or one of an output that is installed
for a while only. -/
def IsExtra (setup : Setup σ π) (current : Path) (root : ProgramName) (program : Program) : Prop :=
  IsSupport setup.toolchain.supportDirectory program ∨
    IsPassing (setup.options.outputDirectoryIn current) (Phase.rootModuleOf root) program

/-- What is known of a compile once its root file is known: the records are exact, and the exchanges
since `start` account for the tracked programs, which are the products. -/
structure Compile.Accounted (ledger : Ledger σ) (setup : Setup (σ × List (Exchange σ)) π)
    (start : List (Exchange σ)) (root : ProgramName) (current : Path) (products : List Program)
    (compile : Compile (σ × List (Exchange σ)) π) : Prop where
  exact : compile.Exact ledger.logged setup
  account : ∃ exchanges, compile.world.engine.2 = start ++ exchanges ∧
    Accounts (IsExtra setup current root) exchanges
      (compile.installed.tracked (ledger.installed compile.world.engine.1)) products
  named : compile.product.root = some root
  rootModule : compile.product.rootModule = Phase.rootModuleOf root
  current : compile.world.currentDirectory = current

open Compile (Accounted)

variable {engine : ModelEngine σ} {ledger : Ledger σ} {setup : Setup (σ × List (Exchange σ)) π}
  {start : List (Exchange σ)} {root : ProgramName} {current : Path} {products : List Program}
  {compile second : Compile (σ × List (Exchange σ)) π} {program : Program}

namespace Compile.Accounted

/-- What is known is a matter of what the compile is about. -/
theorem same (h : compile.Accounted ledger setup start root current products)
    (hsame : compile.bearing = second.bearing) :
    second.Accounted ledger setup start root current products := by
  simp only [bearing, custody, Prod.mk.injEq] at hsame
  obtain ⟨⟨hengine, hcache, hinstalled⟩, hroot, hmodule, hcurrent⟩ := hsame
  have hexact := h.exact
  have haccount := h.account
  rw [Compile.Exact, hengine, hcache, hinstalled] at hexact
  rw [hengine, hinstalled] at haccount
  refine ⟨hexact, haccount, hroot ▸ h.named, hmodule ▸ h.rootModule, ?_⟩
  rw [← h.current, World.currentDirectory, World.currentDirectory, hcurrent]

/-- The next exchange is accounted for together with the change of the records that goes with it. -/
theorem noted (h : compile.Accounted ledger setup start root current products) {request : Request}
    {answer : Answer} {next : σ} {installed : Installed} {products' : List Program}
    (hexact : Compile.Exact ledger.logged setup
      { compile.exchanged request answer next with installed })
    (haccount : ∀ exchanges, Accounts (IsExtra setup current root) exchanges
        (compile.installed.tracked (ledger.installed compile.world.engine.1)) products →
      Accounts (IsExtra setup current root)
        (exchanges ++ [⟨compile.world.engine.1, request, answer⟩])
        (installed.tracked (ledger.installed next)) products') :
    Accounted ledger setup start root current products'
      { compile.exchanged request answer next with installed } := by
  obtain ⟨exchanges, hlog, haccount'⟩ := h.account
  refine { h with exact := hexact, account := ⟨_, ?_, haccount exchanges haccount'⟩ }
  show compile.world.engine.2 ++ _ = _
  rw [hlog, List.append_assoc]

/-- The next exchange leaves the installed programs alone. -/
theorem exchanged (h : compile.Accounted ledger setup start root current products)
    {request : Request} {answer : Answer} {next : σ}
    (hsame : ledger.Same compile.world.engine.1 next)
    (hnone : (Exchange.mk compile.world.engine.1 request answer).installed? = none) :
    (compile.exchanged request answer next).Accounted ledger setup start root current products :=
  h.noted (h.exact.same hsame) fun _ haccount => by
    rw [hsame.2]
    exact haccount.other hnone

end Compile.Accounted

namespace Action

/-- What is about what the compile is about is known after every gentle action. -/
theorem Gentle.accounted {action : Action (σ × List (Exchange σ)) π α} (h : Gentle setup action) :
    Keeps setup (Accounted ledger setup start root current products) action :=
  Leaves.keeps h fun _ _ hsame haccounted => Accounted.same haccounted hsame

/-! ## Installing and removing -/

/-- An install of an engine that is logged is carried out for a new name, or changes nothing. -/
theorem install_log_triple (hengine : setup.engine = logged engine) (h : engine.KeepsTo ledger)
    (program : Program) {P : Compile (σ × List (Exchange σ)) π → Prop}
    {Q : Unit → Compile (σ × List (Exchange σ)) π → Prop}
    {E : Failure → Compile (σ × List (Exchange σ)) π → Prop}
    (hP : ∀ compile, P compile → ledger.sound compile.world.engine.1)
    (hQ : ∀ compile outcome next, P compile → outcome.succeeded = true → ledger.sound next →
      holds (ledger.installed compile.world.engine.1) program.name = false →
      ledger.installed next = ledger.installed compile.world.engine.1 ++ [program] →
      Q () (compile.exchanged (.install program) (.installed outcome) next))
    (hE : ∀ compile answer next failure, P compile → ledger.Same compile.world.engine.1 next →
      (Exchange.mk compile.world.engine.1 (.install program) answer).installed? = none →
      E failure (compile.exchanged (.install program) answer next)) :
    Triple setup P (install program) Q E := by
  intro compile hcompile
  have hinstall := h.install program _ (hP compile hcompile)
  rcases hanswer : engine.install program compile.world.engine.1 with ⟨result, next⟩
  have hlog : (logged engine).install program compile.world.engine = _ := Engine.log_eq hanswer
  rw [hanswer] at hinstall
  rw [run_install, hengine, hlog]
  rcases result with _ | ⟨_ | _, _⟩
  · exact hE compile (.failed .install _) next _ hcompile hinstall rfl
  · exact hE compile (.installed ⟨false, _⟩) next _ hcompile hinstall rfl
  · exact hQ compile ⟨true, _⟩ next hcompile rfl hinstall.1 hinstall.2.1 hinstall.2.2

/-- A program that was installed is tracked as one more product, and is no support program. -/
theorem install_temporary_accounted (hengine : setup.engine = logged engine)
    (h : engine.KeepsTo ledger) (program : Program) :
    Triple setup (Accounted ledger setup start root current products) (installTemporary program)
      (fun _ => Accounted ledger setup start root current (products ++ [program]))
      (fun _ => Accounted ledger setup start root current products) := by
  refine (install_log_triple (Q := fun _ compile =>
      Accounted ledger setup start root current (products ++ [program])
        { compile with installed := compile.installed.track program.name })
    hengine h program (fun _ haccounted => haccounted.exact.sound) ?_ ?_).bind
      fun _ compile haccounted => haccounted
  · intro compile outcome next haccounted hsucceeded hsound hnew hadded
    refine haccounted.noted (haccounted.exact.install_tracked hsound hnew hadded)
      fun exchanges haccount => ?_
    rw [hadded, Installed.tracked_track hnew]
    refine haccount.product (if_pos hsucceeded) fun other hother => ?_
    exact Bool.eq_false_iff.2 (List.any_eq_false.1 hnew other (List.mem_filter.1 hother).1)
  · exact fun compile answer next _ haccounted hsame hnone => haccounted.exchanged hsame hnone

/-- Programs that are no support programs are removed and then tracked no longer, or the log tells
that they were not removed. -/
theorem run_uninstall_log (hengine : setup.engine = logged engine) (h : engine.KeepsTo ledger)
    (first : ProgramName) (rest : List ProgramName)
    (hsound : ledger.sound compile.world.engine.1) :
    (∃ outcome next, outcome.succeeded = true ∧ ledger.sound next ∧
        ledger.installed next = without (ledger.installed compile.world.engine.1) (first :: rest) ∧
        (uninstall (first :: rest)).run setup compile =
          (.ok (), { compile.exchanged (.uninstall (first :: rest)) (.uninstalled outcome) next with
            installed := compile.installed.untrackAll (first :: rest) })) ∨
      ∃ answer next failure, ledger.Same compile.world.engine.1 next ∧
        (Exchange.mk compile.world.engine.1 (.uninstall (first :: rest)) answer).removes = false ∧
        (uninstall (first :: rest)).run setup compile =
          (.error failure, compile.exchanged (.uninstall (first :: rest)) answer next) := by
  have huninstall := h.uninstall (first :: rest) _ hsound
  rcases hanswer : engine.uninstall (first :: rest) compile.world.engine.1 with ⟨result, next⟩
  have hlog : (logged engine).uninstall (first :: rest) compile.world.engine = _ :=
    Engine.log_eq hanswer
  rw [hanswer] at huninstall
  rw [run_uninstall, hengine, hlog]
  rcases result with _ | ⟨_ | _, _⟩
  · exact .inr ⟨.failed .uninstall _, next, _, huninstall, rfl, rfl⟩
  · exact .inr ⟨.uninstalled ⟨false, _⟩, next, _, huninstall, rfl, rfl⟩
  · exact .inl ⟨⟨true, _⟩, next, rfl, huninstall.1, huninstall.2, rfl⟩

/-- The last product is removed when it is the program of an output, or the removal has failed. -/
theorem uninstall_accounted (hengine : setup.engine = logged engine) (h : engine.KeepsTo ledger)
    (hpassing : IsPassing (setup.options.outputDirectoryIn current) (Phase.rootModuleOf root)
      program) :
    Triple setup (Accounted ledger setup start root current (products ++ [program]))
      (uninstall [program.name]) (fun _ => Accounted ledger setup start root current products)
      (fun _ => Accounted ledger setup start root current products) := by
  intro compile haccounted
  obtain ⟨ending, -, hname⟩ := id hpassing
  obtain ⟨outcome, next, hsucceeded, hsound, hremoved, hrun⟩ |
    ⟨answer, next, failure, hsame, hfailed, hrun⟩ :=
      run_uninstall_log hengine h program.name [] haccounted.exact.sound <;> rw [hrun]
  · refine haccounted.noted (haccounted.exact.uninstall (List.forall_mem_singleton.2
      (SupportModule.not_marks_of_not_any (SupportModule.is_any_in_of_model hname))) hsound
        hremoved) fun exchanges haccount => ?_
    rw [hremoved, Installed.tracked_untrack_all]
    exact haccount.removed rfl (.inr hpassing)
  · exact haccounted.noted (haccounted.exact.same hsame) fun _ _ => .failed hfailed

/-- While a program of an output is installed for a while, it is accounted for as a product. -/
theorem bracket_accounted (hengine : setup.engine = logged engine) (h : engine.KeepsTo ledger)
    {body : Action (σ × List (Exchange σ)) π α}
    {next : Except Failure α → Action (σ × List (Exchange σ)) π β}
    (hpassing : IsPassing (setup.options.outputDirectoryIn current) (Phase.rootModuleOf root)
      program)
    (hbody : Keeps setup (Accounted ledger setup start root current (products ++ [program])) body)
    (hnext : ∀ outcome,
      Keeps setup (Accounted ledger setup start root current products) (next outcome)) :
    Keeps setup (Accounted ledger setup start root current products) (do
      installTemporary program
      let outcome ← Rendering.attempt body
      uninstall [program.name]
      next outcome) := by
  refine ((install_temporary_accounted hengine h program).bind fun _ => ?_).keeps
  refine hbody.triple.attempt.bind fun outcome => ?_
  have hremoved := (uninstall_accounted hengine h hpassing).bind fun _ => (hnext outcome).triple
  cases outcome <;> exact hremoved

/-- Support modules are extra programs. -/
theorem ensure_support_accounted (hengine : setup.engine = logged engine)
    (h : engine.KeepsTo ledger) (modules : List SupportModule) :
    Keeps setup (Accounted ledger setup start root current products) (ensureSupport modules) := by
  refine .ensure_support (fun module compile program cache haccounted _ hload => ?_) modules
  obtain ⟨hname, hmodels, hfaithful⟩ := haccounted.exact.faithful.load hload
  have hloaded : Accounted ledger setup start root current products { compile with cache } :=
    { haccounted with exact := haccounted.exact.with_cache hfaithful }
  have hextra : IsExtra setup current root program :=
    .inl ⟨hmodels, SupportModule.is_any_in_iff.2 ⟨module, _, hname, BEq.rfl⟩⟩
  refine install_log_triple (P := Accounted ledger setup start root current products) hengine h
    program (fun _ hcompile => hcompile.exact.sound) ?_ ?_ _ hloaded
  · intro compile outcome next hcompile hsucceeded hsound hnew hadded
    refine hcompile.noted
      (hcompile.exact.install_marked hname hmodels hsound hnew hadded) fun _ haccount => ?_
    have huntracked : compile.installed.contains program.name = false :=
      Bool.eq_false_iff.2 fun htracked =>
        Bool.eq_false_iff.1 hnew ((hcompile.exact.held_iff program.name).2 (.inl htracked))
    rw [hadded, Installed.tracked_mark_support]
    show Accounts _ _ (compile.installed.tracked _) _
    rw [Installed.tracked_append huntracked]
    exact haccount.extra (if_pos hsucceeded) hextra
  · exact fun _ _ _ _ hcompile hsame hnone => hcompile.exchanged hsame hnone

/-! ## Asking for an operation -/

/-- An operation that leaves the installed programs alone. -/
theorem ask_accounted {verb : Engine.Verb} {request : Request} {keep : α → Answer}
    {operation : σ → Except Engine.Error α × σ}
    (hsame : ∀ state, ledger.sound state → ledger.Same state (operation state).2)
    (hnone : ∀ (state : σ) (answer : Answer),
      (Exchange.mk state request answer).installed? = none) :
    Keeps setup (Accounted ledger setup start root current products)
      (ask verb (Engine.log request keep operation)) := by
  refine .ask fun compile haccounted => ?_
  exact haccounted.exchanged (hsame _ haccounted.exact.sound) (hnone _ _)

theorem apply_accounted (hengine : setup.engine = logged engine) (h : engine.KeepsTo ledger)
    (step : Engine.Step) :
    Keeps setup (Accounted ledger setup start root current products) (apply step) := by
  refine .read_bind ?_
  rw [hengine]
  exact .bind (ask_accounted (h.apply step) fun _ _ => rfl) fun _ =>
    .bind (Gentle.accounted Leaves.add_flags) fun _ => .pure

/-- What is taken out of a result is the program of the output. -/
theorem extract_accounted {result : Engine.ApplyResult} {ending first : String} :
    Triple setup (Accounted ledger setup start root current products)
      (extractWith first result (Phase.rootModuleOf root ++ ending))
      (fun program compile => compile.Accounted ledger setup start root current products ∧
        Phase.outputName (setup.options.outputDirectoryIn current) (Phase.rootModuleOf root) ending
          = .ok program.name)
      (fun _ => Accounted ledger setup start root current products) := by
  refine Triple.bind (Q := fun name compile =>
    compile.Accounted ledger setup start root current products ∧
      Phase.outputName (setup.options.outputDirectoryIn current) (Phase.rootModuleOf root) ending =
        .ok name) ?_ fun name => .given fun hname => ?_
  · refine Triple.bind (.output_directory fun _ haccounted => Accounted.current haccounted)
      fun directory => .given fun hdirectory => ?_
    subst hdirectory
    exact .of_except fun _ _ _ => id
  split
  · rename_i program hprogram
    obtain ⟨model, -, rfl⟩ := Option.map_eq_some_iff.1 hprogram
    exact .pure fun _ haccounted => ⟨haccounted, hname⟩
  · exact fun _ haccounted => haccounted

/-- A program of an output is gone when it was rendered. -/
theorem render_accounted (hengine : setup.engine = logged engine) (h : engine.KeepsTo ledger)
    (renderer appendix : String)
    (hpassing : IsPassing (setup.options.outputDirectoryIn current) (Phase.rootModuleOf root)
      program) :
    Keeps setup (Accounted ledger setup start root current products)
      (Rendering.render program renderer appendix) := by
  refine .read_bind ?_
  split
  · exact .fail
  · rw [hengine]
    refine bracket_accounted hengine h hpassing (ask_accounted (h.render _ _) fun _ _ => rfl)
      fun outcome => Gentle.accounted ?_
    refine .bind .of_except fun _ => .bind .add_flags fun _ => .ite ?_ .pure
    exact .bind .output_directory fun directory =>
      Rendering.write_files_gentle directory appendix _

end Action

end MachineCompiler
