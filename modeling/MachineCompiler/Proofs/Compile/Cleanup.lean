import MachineCompiler.Proofs.Compile.Leftovers
import MachineCompiler.Proofs.Compile.Preconditions
import MachineCompiler.Proofs.Compile.SingleFile

/-!
# No temporary program outlives its compile

A compile has two products: the root program and, when a verification model is generated, the
program with inferred types. Whatever fails, as long as it is no removal, those of them that were
installed are left in the engine at the end, next to the support programs, and nothing else is.
-/

namespace MachineCompiler

open Action
open Engine (Exchange Interfered Ledger Memory Program Rules holds inMemory installs interfered
  logged)
open Compile (Accounted)

variable {σ π α β : Type} {engine : ModelEngine σ} {ledger : Ledger σ}
  {setup : Setup (σ × List (Exchange σ)) π} {start : List (Exchange σ)} {root : ProgramName}
  {current : Path} {products : List Program} {program typed : Program}
  {compile : Compile (σ × List (Exchange σ)) π}

/-! ## Products -/

/-- The program is the one that is installed for the root file. Support programs have no models. -/
def IsRoot (root : Option ProgramName) (program : Program) : Prop :=
  root = some program.name ∧ program.models ≠ []

/-- The program is that of the output with inferred types. -/
def IsTyped (directory : Path) (rootModule : String) (program : Program) : Prop :=
  Phase.outputName directory rootModule "_WithTypes" = .ok program.name

/-- The products that a compile may have so far. -/
inductive Products (setup : Setup σ π) (current : Path) (root : ProgramName) :
    List Program → Prop where
  | none : Products setup current root []
  | root {program : Program} (hroot : IsRoot (some root) program) :
      Products setup current root [program]
  | typed {program typed : Program} (hroot : IsRoot (some root) program)
      (htyped : IsTyped (setup.options.outputDirectoryIn current) (Phase.rootModuleOf root) typed) :
      Products setup current root [program, typed]

/-- The exchanges account for the products, whichever of them there are. -/
def Compile.Kept (ledger : Ledger σ) (setup : Setup (σ × List (Exchange σ)) π)
    (start : List (Exchange σ)) (root : ProgramName) (current : Path)
    (compile : Compile (σ × List (Exchange σ)) π) : Prop :=
  ∃ products, compile.Accounted ledger setup start root current products ∧
    Products setup current root products

open Compile (Kept)

/-! ## Phases -/

namespace Phase

-- The rules say what becomes of an action. Evaluating it would take much longer.
attribute [local irreducible] Action.run

/-- The products so far, with the root module among them. -/
theorem product_accounted :
    Triple setup (Accounted ledger setup start root current products) product
      (fun product compile => compile.Accounted ledger setup start root current products ∧
        product.rootModule = rootModuleOf root)
      (fun _ => Accounted ledger setup start root current products) :=
  .product _ fun _ haccounted => Accounted.rootModule haccounted

/-- The root program becomes the first product. -/
theorem run_install_accounted (hengine : setup.engine = logged engine) (h : engine.KeepsTo ledger) :
    Triple setup (Accounted ledger setup start root current []) runInstall
      (fun _ compile => ∃ program, compile.Accounted ledger setup start root current [program] ∧
        IsRoot (some root) program)
      (fun _ => Kept ledger setup start root current) := by
  have before {α : Type} {action : Action (σ × List (Exchange σ)) π α}
      (h : Keeps setup (Accounted ledger setup start root current []) action) :
      Triple setup (Accounted ledger setup start root current []) action
        (fun _ => Accounted ledger setup start root current [])
        (fun _ => Kept ledger setup start root current) :=
    h.triple.mono (fun _ => id) (fun _ _ => id) fun _ _ haccounted => ⟨[], haccounted, .none⟩
  refine .read_bind ((before (ensure_support_accounted hengine h _)).bind fun _ => ?_)
  refine (Triple.root fun _ haccounted => Accounted.named haccounted).bind fun name =>
    .given fun hname => ?_
  subst hname
  refine (before (Gentle.accounted .support_reference)).bind fun domain => ?_
  refine (before (Gentle.accounted parsed_program_gentle)).bind fun parsed => ?_
  refine (before .product).bind fun product => ?_
  have installed : Triple setup (Accounted ledger setup start name current [])
      (do
        installProduct (rootProgram name product.rootModule domain parsed)
        advance .modelInstalled)
      (fun _ compile => ∃ program, compile.Accounted ledger setup start name current [program] ∧
        IsRoot (some name) program)
      (fun _ => Kept ledger setup start name current) := by
    have hroot : IsRoot (some name) ((rootProgram name product.rootModule domain
        parsed).withSetting Engine.keepLineNumbers "TRUE") := ⟨rfl, List.cons_ne_nil _ _⟩
    refine ((install_temporary_accounted hengine h _).mono (fun _ => id) (fun _ _ => id)
      fun _ _ haccounted => ⟨[], haccounted, .none⟩).bind fun _ => ?_
    exact (Gentle.accounted Leaves.advance).triple.mono (fun _ => id)
      (fun _ _ haccounted => ⟨_, haccounted, hroot⟩) fun _ _ haccounted =>
        ⟨_, haccounted, .root hroot⟩
  split
  · refine (before (Gentle.accounted .output_directory)).bind fun directory => ?_
    exact (before (Gentle.accounted Leaves.save)).bind fun _ => installed
  · exact installed

/-- A check installs nothing. -/
theorem run_check_accounted (hengine : setup.engine = logged engine) (h : engine.KeepsTo ledger)
    (patterns : List ErrorPattern) :
    Keeps setup (Accounted ledger setup start root current products) (runCheckWith patterns) := by
  refine .read_bind (.bind (Gentle.accounted .root) fun name => .bind .product fun product => ?_)
  rw [hengine]
  exact .bind (ask_accounted (h.query _ _ _) fun _ _ => rfl) fun outcome =>
    (weigh_passive outcome name patterns).gentle.accounted

/-- The programs of both lowered outputs are gone when a link descriptor was linked, and so is the
descriptor. -/
theorem link_accounted (hengine : setup.engine = logged engine) (h : engine.KeepsTo ledger)
    (hname : outputName (setup.options.outputDirectoryIn current) (rootModuleOf root) "_LinkModel" =
      .ok program.name) :
    Keeps setup (Accounted ledger setup start root current products) (link program) := by
  refine bracket_accounted hengine h ⟨"_LinkModel", by decide, hname⟩ ?_ fun _ => .of_except
  refine (product_accounted.bind fun product => .given fun hmodule => ?_).keeps
  rw [hmodule]
  refine (Gentle.accounted .support_reference).triple.bind fun transform => ?_
  refine (apply_accounted hengine h _).triple.bind fun result => ?_
  refine extract_accounted.bind fun lowered => .given fun hname => ?_
  exact (render_accounted hengine h cRenderer "" ⟨"_CLinkModel", by decide, hname⟩).triple

/-- Nothing is left of the outputs that the C program is generated from. -/
theorem run_generate_c_accounted (hengine : setup.engine = logged engine)
    (h : engine.KeepsTo ledger) :
    Keeps setup (Accounted ledger setup start root current products) runGenerateC := by
  refine .read_bind (.bind (ensure_support_accounted hengine h _) fun _ => Triple.keeps ?_)
  refine product_accounted.bind fun product => .given fun hmodule => ?_
  rw [hmodule]
  refine (Gentle.accounted .support_reference).triple.bind fun transform => ?_
  refine (Gentle.accounted .root_reference).triple.bind fun reference => ?_
  refine (Gentle.accounted .output_base).triple.bind fun base => ?_
  refine (apply_accounted hengine h _).triple.bind fun result => ?_
  refine extract_accounted.bind fun cProgram => .given fun hname => ?_
  refine (render_accounted hengine h cRenderer "" ⟨"_CModel", by decide, hname⟩).triple.bind
    fun rendered => ?_
  refine extract_accounted.bind fun linkProgram => .given fun hname => ?_
  refine (Gentle.accounted .output_directory).triple.bind fun directory => ?_
  refine (Gentle.accounted Leaves.save).triple.bind fun _ => ?_
  refine (link_accounted hengine h hname).triple.bind fun linked => ?_
  exact (Gentle.accounted (.ite (.bind .fail fun _ => Leaves.advance) Leaves.advance)).triple

/-- The program with inferred types becomes one more product. -/
theorem install_typed_model_accounted (hengine : setup.engine = logged engine)
    (h : engine.KeepsTo ledger) :
    Triple setup (Accounted ledger setup start root current products) installTypedModel
      (fun _ compile => ∃ typed,
        compile.Accounted ledger setup start root current (products ++ [typed]) ∧
          IsTyped (setup.options.outputDirectoryIn current) (rootModuleOf root) typed)
      (fun _ => Accounted ledger setup start root current products) := by
  refine (ensure_support_accounted hengine h _).triple.bind fun _ => ?_
  refine product_accounted.bind fun product => .given fun hmodule => ?_
  rw [hmodule]
  refine (Gentle.accounted .support_reference).triple.bind fun transform => ?_
  refine (Gentle.accounted .root_reference).triple.bind fun reference => ?_
  refine (apply_accounted hengine h _).triple.bind fun result => ?_
  refine extract_accounted.bind fun typed => .given fun hname => ?_
  refine (install_temporary_accounted hengine h _).bind fun _ => .pure fun _ haccounted => ?_
  exact ⟨_, haccounted, hname⟩

/-- Of the outputs of a verification model, only the program with inferred types is left. -/
theorem run_generate_verification_accounted (hengine : setup.engine = logged engine)
    (h : engine.KeepsTo ledger) (hroot : IsRoot (some root) program) :
    Triple setup (Accounted ledger setup start root current [program]) runGenerateVerification
      (fun _ => Kept ledger setup start root current)
      (fun _ => Kept ledger setup start root current) := by
  refine .read_bind (((install_typed_model_accounted hengine h).mono (fun _ => id) (fun _ _ => id)
    fun _ _ haccounted => ⟨_, haccounted, .root hroot⟩).bind fun reference =>
      Triple.of_exists fun typed => .given fun htyped => ?_)
  have hkept (compile : Compile (σ × List (Exchange σ)) π)
      (haccounted : compile.Accounted ledger setup start root current [program, typed]) :
      compile.Kept ledger setup start root current := ⟨_, haccounted, .typed hroot htyped⟩
  refine Triple.mono
    (Q := fun _ => Accounted ledger setup start root current [program, typed])
    (E := fun _ => Accounted ledger setup start root current [program, typed])
    ?_ (fun _ => id) (fun _ => hkept) fun _ => hkept
  refine (ensure_support_accounted hengine h _).triple.bind fun _ => ?_
  refine (Gentle.accounted .output_base).triple.bind fun base => ?_
  refine product_accounted.bind fun product => .given fun hmodule => ?_
  rw [hmodule]
  refine (Gentle.accounted .support_reference).triple.bind fun transform => ?_
  refine (Gentle.accounted .root_reference).triple.bind fun root => ?_
  refine (apply_accounted hengine h _).triple.bind fun result => ?_
  refine extract_accounted.bind fun program => .given fun hname => ?_
  refine (Gentle.accounted .get).triple.bind fun _ => ?_
  refine (Gentle.accounted .of_except).triple.bind fun appendix => ?_
  refine (render_accounted hengine h verificationRenderer appendix
    ⟨"_ZingModel", by decide, hname⟩).triple.bind fun rendered => ?_
  have compiled : Gentle setup (do
      compileModel (base ++ ".zing") (base ++ ".dll")
      advance .verificationTargetGenerated : Action (σ × List (Exchange σ)) π Unit) :=
    .bind (compile_model_gentle _ _) fun _ => Leaves.advance
  exact (Gentle.accounted (.ite (.bind .fail fun _ => compiled) compiled)).triple

end Phase

/-! ## Compiles -/

/-- Nothing is left without the root program; otherwise it is left, and the typed program behind it
if that was installed as well. -/
def Remains (isRoot isTyped : Program → Prop) (installed left : List Program) : Prop :=
  (∀ program ∈ installed, ¬isRoot program) ∧ left = [] ∨
    ∃ root ∈ installed, isRoot root ∧
      ((∀ program ∈ installed, ¬isTyped program) ∧ left = [root] ∨
        ∃ typed ∈ installed, isTyped typed ∧ left = [root, typed])

/-- What is known of a compile before its root file is: the records are exact, no program is
tracked, and none was installed. -/
structure Compile.Bare (ledger : Ledger σ) (setup : Setup (σ × List (Exchange σ)) π)
    (start : List (Exchange σ)) (current : Path) (compile : Compile (σ × List (Exchange σ)) π) :
    Prop where
  exact : compile.Exact ledger.logged setup
  account : ∃ exchanges, compile.world.engine.2 = start ++ exchanges ∧
    Accounts (fun _ => False) exchanges
      (compile.installed.tracked (ledger.installed compile.world.engine.1)) []
  current : compile.world.currentDirectory = current

/-- What a compile ends with: if all removals since `start` were carried out, the tracked programs
are what remains of those that were installed, and no program that was installed for a while is
still there. -/
structure Compile.Settled (ledger : Ledger σ) (setup : Setup (σ × List (Exchange σ)) π)
    (start : List (Exchange σ)) (current : Path) (compile : Compile (σ × List (Exchange σ)) π) :
    Prop where
  exact : compile.Exact ledger.logged setup
  account : ∃ exchanges, compile.world.engine.2 = start ++ exchanges ∧
    ((∀ exchange ∈ exchanges, exchange.removes = true) →
      Remains (IsRoot compile.product.root)
          (IsTyped (setup.options.outputDirectoryIn current) compile.product.rootModule)
          (installs exchanges)
          (compile.installed.tracked (ledger.installed compile.world.engine.1)) ∧
        ∀ program ∈ installs exchanges,
          IsPassing (setup.options.outputDirectoryIn current) compile.product.rootModule program →
            holds (ledger.installed compile.world.engine.1) program.name = false)

open Compile (Bare Settled)

/-- The root program is none of the outputs. -/
theorem IsRoot.apart {ending : String} {name : ProgramName} (h : IsRoot (some root) program)
    (hending : ending ∈ Phase.outputEndings)
    (hname : Phase.outputName directory (Phase.rootModuleOf root) ending = .ok name) :
    (program.name == name) = false :=
  Option.some.inj h.1 ▸ Phase.root_is_no_output hending hname

theorem Phase.passing_endings_subset : ∀ ending ∈ passingEndings,
    ending ∈ outputEndings ∧ "_WithTypes" ≠ ending := by
  decide

/-- A product is no program that is installed for a while only. -/
theorem Products.apart (h : Products setup current root products) {product : Program}
    (hproduct : product ∈ products) (hpassing : IsPassing
      (setup.options.outputDirectoryIn current) (Phase.rootModuleOf root) program) :
    (product.name == program.name) = false := by
  obtain ⟨ending, hending, hname⟩ := hpassing
  obtain ⟨houtput, hne⟩ := Phase.passing_endings_subset ending hending
  cases h with
  | none => exact absurd hproduct List.not_mem_nil
  | root hroot =>
    obtain rfl := List.mem_singleton.1 hproduct
    exact hroot.apart houtput hname
  | typed hroot htyped =>
    obtain rfl | rfl : product = _ ∨ product = _ := by simpa using hproduct
    · exact hroot.apart houtput hname
    · exact Phase.output_names_apart (by decide) houtput hne htyped hname

/-- An extra program is neither the root program nor the one with inferred types. -/
theorem IsExtra.not_product (h : IsExtra setup current root program) :
    ¬IsRoot (some root) program ∧ ¬IsTyped (setup.options.outputDirectoryIn current)
      (Phase.rootModuleOf root) program := by
  obtain ⟨hmodels, hany⟩ | ⟨ending, hending, hname⟩ := h
  · refine ⟨fun hroot => hroot.2 hmodels, fun htyped => ?_⟩
    rw [SupportModule.is_any_in_of_model htyped] at hany
    exact Bool.false_ne_true hany
  · obtain ⟨houtput, hne⟩ := Phase.passing_endings_subset ending hending
    constructor <;> intro hproduct
    · exact Bool.eq_false_iff.1 (hproduct.apart houtput hname) BEq.rfl
    · exact Bool.eq_false_iff.1
        (Phase.output_names_apart (by decide) houtput hne hproduct hname) BEq.rfl

/-- The products are what remains of the programs that were installed. -/
theorem Products.remains (h : Products setup current root products) {installed : List Program}
    (hmem : ∀ program ∈ products, program ∈ installed)
    (hkind : ∀ program ∈ installed, IsExtra setup current root program ∨ program ∈ products) :
    Remains (IsRoot (some root))
      (IsTyped (setup.options.outputDirectoryIn current) (Phase.rootModuleOf root))
      installed products := by
  cases h with
  | none =>
    refine .inl ⟨fun program hprogram => ?_, rfl⟩
    exact ((hkind program hprogram).resolve_right List.not_mem_nil).not_product.1
  | @root product hroot =>
    refine .inr ⟨product, hmem product (by simp), hroot, .inl ⟨?_, rfl⟩⟩
    intro program hprogram htyped
    obtain hextra | hproduct := hkind program hprogram
    · exact hextra.not_product.2 htyped
    · obtain rfl := List.mem_singleton.1 hproduct
      exact Bool.eq_false_iff.1 (hroot.apart (by decide) htyped) BEq.rfl
  | @typed product typed hroot htyped =>
    exact .inr ⟨product, hmem product (by simp), hroot,
      .inr ⟨typed, hmem typed (by simp), htyped, rfl⟩⟩

/-- A program is gone when no tracked program has its name and it is no support program. -/
theorem Exact.gone {directory : Path} {state : σ} {cache : SupportCache} {installed : Installed}
    {name : ProgramName} (h : Exact ledger directory state cache installed)
    (htracked : ∀ other ∈ installed.tracked (ledger.installed state), (other.name == name) = false)
    (hname : SupportModule.isAnyIn directory name = false) :
    holds (ledger.installed state) name = false := by
  refine Bool.eq_false_iff.2 fun hheld => ?_
  obtain hcontains | hmarks := (h.held_iff name).1 hheld
  · obtain ⟨other, hother, hsame⟩ := List.any_eq_true.1 hheld
    have hother : other ∈ installed.tracked (ledger.installed state) :=
      List.mem_filter.2 ⟨hother, Installed.contains_congr hcontains (BEq.symm hsame)⟩
    exact Bool.eq_false_iff.1 (htracked other hother) hsame
  · exact SupportModule.not_marks_of_not_any hname hmarks

theorem Compile.Kept.settled (h : compile.Kept ledger setup start root current) :
    compile.Settled ledger setup start current := by
  obtain ⟨products, haccounted, hproducts⟩ := h
  obtain ⟨exchanges, hlog, haccount⟩ := haccounted.account
  refine ⟨haccounted.exact, exchanges, hlog, fun hremoves => ?_⟩
  obtain ⟨htracked, -, hmem, hkind⟩ := haccount hremoves
  rw [haccounted.named, haccounted.rootModule, htracked]
  refine ⟨hproducts.remains hmem hkind, fun program _ hpassing => haccounted.exact.gone ?_ ?_⟩
  · exact htracked ▸ fun product hproduct => hproducts.apart hproduct hpassing
  · obtain ⟨_, -, hname⟩ := hpassing
    exact SupportModule.is_any_in_of_model hname

/-- What a compile ends with is a matter of what the compile is about. -/
theorem Compile.Settled.same {second : Compile (σ × List (Exchange σ)) π}
    (h : compile.Settled ledger setup start current) (hsame : compile.bearing = second.bearing) :
    second.Settled ledger setup start current := by
  simp only [bearing, custody, Prod.mk.injEq] at hsame
  obtain ⟨⟨hengine, hcache, hinstalled⟩, hroot, hmodule, -⟩ := hsame
  obtain ⟨hexact, haccount⟩ := h
  rw [Compile.Exact, hengine, hcache, hinstalled] at hexact
  rw [hengine, hinstalled, hroot, hmodule] at haccount
  exact ⟨hexact, haccount⟩

theorem Compile.Bare.settled (h : compile.Bare ledger setup start current) :
    compile.Settled ledger setup start current := by
  obtain ⟨exchanges, hlog, haccount⟩ := h.account
  refine ⟨h.exact, exchanges, hlog, fun hremoves => ?_⟩
  obtain ⟨htracked, -, -, hkind⟩ := haccount hremoves
  have hnone (program : Program) : program ∉ installs exchanges := fun hprogram =>
    (hkind program hprogram).elim id List.not_mem_nil
  exact ⟨.inl ⟨fun program hprogram => absurd hprogram (hnone program), htracked⟩,
    fun program hprogram => absurd hprogram (hnone program)⟩

/-- Once the root file is found, there are no products. -/
theorem Compile.Bare.accounted (h : compile.Bare ledger setup start current)
    (hroot : compile.product.root = some root)
    (hmodule : compile.product.rootModule = Phase.rootModuleOf root) :
    compile.Accounted ledger setup start root current [] := by
  obtain ⟨exchanges, hlog, haccount⟩ := h.account
  refine ⟨h.exact, ⟨exchanges, hlog, fun hremoves => ?_⟩, hroot, hmodule, h.current⟩
  obtain ⟨htracked, hdistinct, hmem, hkind⟩ := haccount hremoves
  exact ⟨htracked, hdistinct, hmem, fun program hprogram => (hkind program hprogram).imp_left
    False.elim⟩

/-- Parsing asks the engine for nothing. -/
theorem Phase.run_parse_bare :
    Triple setup (Bare ledger setup start current) runParse
      (fun _ compile => ∃ root, compile.Accounted ledger setup start root current [])
      (fun _ => Settled ledger setup start current) := by
  have hfailed (flags : List Flag) :
      Triple setup (Bare ledger setup start current) (parseFailed flags)
        (fun _ compile => ∃ root, compile.Accounted ledger setup start root current [])
        (fun _ => Settled ledger setup start current) := by
    intro compile hbare
    rw [parseFailed, run_bind, run_add_flags]
    exact Compile.Bare.settled { hbare with }
  refine .read_bind (.get_bind fun compile hbare => ?_)
  dsimp only
  split
  · rintro _ rfl
    exact hfailed _ _ hbare
  · rename_i root _
    rintro _ rfl
    rw [run_bind, run_resolve_files]
    generalize (Source.resolve _ _ _ _) = found
    rcases found with ⟨flags | resolution, parser⟩ <;> dsimp only
    · exact hfailed _ _ { hbare with }
    · rw [run_bind, run_add_flags]
      dsimp only
      rw [run_bind, run_modify_product]
      refine ((Gentle.accounted Leaves.advance).triple _ ?_).mono
        (fun _ _ haccounted => ⟨root, haccounted⟩) fun _ _ haccounted =>
          Compile.Kept.settled ⟨[], haccounted, .none⟩
      exact Compile.Bare.accounted { hbare with } rfl rfl

namespace Compiler

/-- A reset removes all that is tracked, or fails to remove it. -/
theorem reset_bare (hengine : setup.engine = logged engine) (h : engine.KeepsTo ledger) :
    Triple setup
      (fun compile => compile.Exact ledger.logged setup ∧ compile.world.engine.2 = start ∧
        compile.world.currentDirectory = current)
      reset (fun _ => Bare ledger setup start current)
      (fun _ => Settled ledger setup start current) := by
  rintro compile ⟨hexact, rfl, hcurrent⟩
  show After _ _ ((uninstall compile.installed.programs).run setup compile)
  cases hprograms : compile.installed.programs with
  | nil =>
    have hnone : compile.installed.tracked (ledger.installed compile.world.engine.1) = [] :=
      List.filter_eq_nil_iff.2 fun program _ => by simp [Installed.contains, hprograms]
    exact ⟨hexact, ⟨[], by rw [List.append_nil], .start hnone⟩, hcurrent⟩
  | cons first rest =>
    have hunmarked : ∀ name ∈ first :: rest,
        ¬Marks compile.installed.support setup.toolchain.supportDirectory name :=
      fun name hname => hexact.apart name
        (Installed.contains_iff.2 ⟨name, hprograms ▸ hname, BEq.rfl⟩)
    obtain ⟨outcome, next, -, hsound, hremoved, hrun⟩ |
      ⟨answer, next, failure, hsame, hfailed, hrun⟩ :=
        run_uninstall_log hengine h first rest hexact.sound <;> rw [hrun]
    · have hnone : (compile.installed.untrackAll (first :: rest)).tracked
          (ledger.installed next) = [] := by
        rw [hremoved, ← hprograms]
        exact Installed.tracked_untrack_programs
      exact ⟨hexact.uninstall hunmarked hsound hremoved,
        ⟨[] ++ [_], rfl, (Accounts.start hnone).other rfl⟩, hcurrent⟩
    · exact Compile.Bare.settled
        ⟨hexact.same hsame, ⟨[] ++ [_], rfl, .failed hfailed⟩, hcurrent⟩

/-- The phases after the parse leave the products. -/
theorem phases_settled (hengine : setup.engine = logged engine) (h : engine.KeepsTo ledger) :
    Triple setup (Accounted ledger setup start root current [])
      (Pipeline.runPhases (pipeline setup.options).plugins
        [Phase.install, Phase.check, Phase.generateC, Phase.generateVerification])
      (fun _ => Settled ledger setup start current)
      (fun _ => Settled ledger setup start current) := by
  have htimeless {products : List Program} :
      Pipeline.Timeless (Accounted ledger setup start root current products) :=
    fun _ _ _ haccounted => haccounted.same rfl
  have hsettled {program : Program} (hroot : IsRoot (some root) program)
      (compile : Compile (σ × List (Exchange σ)) π)
      (haccounted : compile.Accounted ledger setup start root current [program]) :
      compile.Settled ledger setup start current :=
    Compile.Kept.settled ⟨_, haccounted, .root hroot⟩
  have hverification {program : Program} (hroot : IsRoot (some root) program) :
      Triple setup (Accounted ledger setup start root current [program])
        (Pipeline.runPhases (pipeline setup.options).plugins [Phase.generateVerification])
        (fun _ => Settled ledger setup start current)
        (fun _ => Settled ledger setup start current) := by
    exact Pipeline.run_phases_optional (!setup.options.analyze && setup.options.test) (fun _ => rfl)
      (fun _ => Pipeline.run_phase_triple htimeless (fun _ _ _ hsettled => hsettled.same rfl)
        ((Phase.run_generate_verification_accounted hengine h hroot).mono (fun _ => id)
          (fun _ _ => Compile.Kept.settled) fun _ _ => Compile.Kept.settled))
      (fun _ => hsettled hroot) (.pure fun _ => id)
  have hgeneration {program : Program} (hroot : IsRoot (some root) program) :
      Triple setup (Accounted ledger setup start root current [program])
        (Pipeline.runPhases (pipeline setup.options).plugins
          [Phase.generateC, Phase.generateVerification])
        (fun _ => Settled ledger setup start current)
        (fun _ => Settled ledger setup start current) := by
    exact Pipeline.run_phases_optional (!setup.options.analyze && !setup.options.noC) (fun _ => rfl)
      (fun _ => Pipeline.run_phase_triple htimeless htimeless
        ((Phase.run_generate_c_accounted hengine h).triple.mono (fun _ => id) (fun _ _ => id)
          fun _ => hsettled hroot))
      (fun _ _ => id) (hverification hroot)
  refine Pipeline.run_phases_enabled (fun _ => rfl) (Pipeline.run_phase_triple htimeless ?_
    ((Phase.run_install_accounted hengine h).mono (fun _ => id) (fun _ _ => id)
      fun _ _ => Compile.Kept.settled)) ?_
  · exact fun _ _ _ ⟨program, haccounted, hroot⟩ => ⟨program, haccounted.same rfl, hroot⟩
  · refine Triple.of_exists fun program => .given fun hroot => ?_
    exact Pipeline.run_phases_enabled (fun _ => rfl) (Pipeline.run_phase_triple htimeless htimeless
      ((Phase.run_check_accounted hengine h Phase.errorPatterns).triple.mono (fun _ => id)
        (fun _ _ => id) fun _ => hsettled hroot)) (hgeneration hroot)

/-- A compile ends with its products installed. -/
theorem run_phases_settled (hengine : setup.engine = logged engine) (h : engine.KeepsTo ledger)
    (hexact : compile.Exact ledger.logged setup) :
    (runPhases setup compile).Settled ledger setup compile.world.engine.2
      compile.world.currentDirectory := by
  have hphases : Triple setup
      (Bare ledger setup compile.world.engine.2 compile.world.currentDirectory)
      (Pipeline.runPhases (pipeline setup.options).plugins Pipeline.builtIn)
      (fun _ => Settled ledger setup compile.world.engine.2 compile.world.currentDirectory)
      (fun _ => Settled ledger setup compile.world.engine.2 compile.world.currentDirectory) := by
    refine Pipeline.run_phases_enabled (fun _ => rfl) (Pipeline.run_phase_triple ?_ ?_
      Phase.run_parse_bare) (Triple.of_exists fun root => phases_settled hengine h)
    · exact fun _ _ _ hbare => { hbare with }
    · exact fun _ _ _ ⟨root, haccounted⟩ => ⟨root, haccounted.same rfl⟩
  have hrun : Triple setup
      (Bare ledger setup compile.world.engine.2 compile.world.currentDirectory)
      (pipeline setup.options).run
      (fun _ => Settled ledger setup compile.world.engine.2 compile.world.currentDirectory)
      (fun _ => Settled ledger setup compile.world.engine.2 compile.world.currentDirectory) := by
    unfold Pipeline.run
    rw [phases_pipeline, List.append_nil]
    exact hphases.bind fun _ => (Leaves.keeps Leaves.advance fun _ _ hsame hsettled =>
      Compile.Settled.same hsettled hsame).triple
  have hafter := ((reset_bare hengine h).bind fun _ => hrun) compile ⟨hexact, rfl, rfl⟩
  unfold runPhases
  split <;> rename_i hresult <;> rw [hresult] at hafter
  · exact hafter
  · exact Compile.Settled.same hafter rfl

end Compiler

/-! ## What is left in the engine -/

instance (module : SupportModule) (directory : Path) (name : ProgramName) :
    Decidable (module.IsIn directory name) :=
  match hplace : ProgramName.ofPath (module.location directory) with
  | .ok place => decidable_of_iff ((place == name) = true)
    ⟨fun hsame => ⟨place, hplace, hsame⟩,
      fun ⟨_, hother, hsame⟩ => Except.ok.inj (hplace.symm.trans hother) ▸ hsame⟩
  | .error _ => .isFalse fun ⟨_, hother, _⟩ => nomatch hplace.symm.trans hother

instance (support : List SupportModule) (directory : Path) (name : ProgramName) :
    Decidable (Marks support directory name) :=
  inferInstanceAs (Decidable (∃ module ∈ support, module.IsIn directory name))

/-- The tracked programs are those that hold no marked support module. -/
theorem Exact.tracked_eq {directory : Path} {state : σ} {cache : SupportCache}
    {installed : Installed} (h : Exact ledger directory state cache installed) :
    installed.tracked (ledger.installed state) = (ledger.installed state).filter fun program =>
      ¬Marks installed.support directory program.name := by
  refine List.filter_congr fun program hprogram => ?_
  rw [Bool.eq_iff_iff, decide_eq_true_iff]
  have hheld : holds (ledger.installed state) program.name = true :=
    List.any_eq_true.2 ⟨program, hprogram, BEq.rfl⟩
  exact ⟨h.apart program.name, ((h.held_iff program.name).1 hheld).resolve_right⟩

/-- In every session with an engine in memory, interfered with in any way that reports no install or
removal that was not carried out, and whatever fails in a compile, as long as each removal is
carried out: apart from support programs nothing is left if the root program was not installed, and
otherwise the root program is left and, exactly if it was installed, the program with inferred
types. The programs that were installed to be rendered or linked are gone. -/
theorem temporaries_are_removed {rules : Rules}
    {compiler : Compiler (Interfered Memory × List (Exchange (Interfered Memory))) π}
    (hengine : compiler.engine = logged (interfered (inMemory rules)))
    {session : Session (Interfered Memory × List (Exchange (Interfered Memory))) π}
    (hreached : session.Reached compiler Memory.ledger.interfered.logged)
    (options : Options) (input : Path) :
    let product := (Compiler.runPhases (compiler.setup options input) session.begin).product
    let directory := options.outputDirectoryIn session.world.currentDirectory
    let after := (compiler.compile options input session).2
    let programs := after.world.engine.1.engine.installed
    ∃ exchanges, after.world.engine.2 = session.world.engine.2 ++ exchanges ∧
      ((∀ exchange ∈ exchanges, exchange.removes = true) →
        Remains (IsRoot product.root) (IsTyped directory product.rootModule) (installs exchanges)
            (programs.filter fun program =>
              ¬Marks after.installed.support compiler.toolchain.supportDirectory program.name) ∧
          ∀ program ∈ installs exchanges, IsPassing directory product.rootModule program →
            holds programs program.name = false) := by
  intro product directory after programs
  have hkeeps : (interfered (inMemory rules)).KeepsTo Memory.ledger.interfered :=
    Engine.interfered_keeps_to (Engine.in_memory_keeps_to rules)
  have hexact : session.begin.Exact Memory.ledger.interfered.logged
      (compiler.setup options input) :=
    hreached.exact (hengine ▸ Engine.logged_keeps_to hkeeps)
  have hsettled : (Compiler.runPhases (compiler.setup options input) session.begin).Settled
      Memory.ledger.interfered (compiler.setup options input) session.world.engine.2
        session.world.currentDirectory :=
    Compiler.run_phases_settled hengine hkeeps hexact
  obtain ⟨hafter, exchanges, hlog, haccount⟩ := hsettled
  refine ⟨exchanges, hlog, fun hremoves => ?_⟩
  obtain ⟨hremains, hgone⟩ := haccount hremoves
  exact ⟨(congrArg (Remains _ _ (installs exchanges)) hafter.tracked_eq).mp hremains, hgone⟩

/-- The connection to the engine is lost while the lowered link descriptor is rendered, and with it
two temporary programs are installed. All removals are carried out. -/
theorem temporaries_are_removed_after_lost_render :
    let lost : Engine.Interference :=
      ⟨.render, some 1, some "connection lost", .success, [], none, none, []⟩
    let compiler := SingleMachine.compiler (logged (interfered (inMemory Engine.Sample.rules)))
    let session := SingleMachine.session "main.p" (⟨[lost], fun _ => 0, .empty⟩, [])
    let product :=
      (Compiler.runPhases (compiler.setup .default (.ofString "main.p")) session.begin).product
    let after := (compiler.compile .default (.ofString "main.p") session).2
    (∀ exchange ∈ after.world.engine.2, exchange.removes = true) ∧
      Remains (IsRoot product.root) (IsTyped (.ofString "/work") product.rootModule)
        (installs after.world.engine.2)
        (after.world.engine.1.engine.installed.filter fun program =>
          ¬Marks after.installed.support (.ofString "/toolchain") program.name) := by
  intro lost compiler session product after
  have hsound : Memory.ledger.interfered.logged.sound session.world.engine := by
    refine ⟨trivial, List.forall_mem_singleton.2 fun hverb => ?_⟩
    rcases hverb with hverb | hverb <;> cases hverb
  have hengine : compiler.engine = logged (interfered (inMemory Engine.Sample.rules)) := rfl
  have hreached : session.Reached compiler Memory.ledger.interfered.logged := .start hsound rfl
  obtain ⟨exchanges, hlog, hremains⟩ :=
    temporaries_are_removed hengine hreached .default (.ofString "main.p")
  obtain rfl : after.world.engine.2 = exchanges := hlog
  have hremoves : after.world.engine.2.all Exchange.removes = true := by
    rw [Compiler.engine_compile, SingleMachine.main_is_plain.run_phases_eq _ _ rfl]
    decide +kernel
  exact ⟨List.all_eq_true.1 hremoves, (hremains (List.all_eq_true.1 hremoves)).1⟩

end MachineCompiler
