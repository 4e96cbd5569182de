import MachineCompiler.Proofs.Compile.Analysis
import MachineCompiler.Proofs.Compile.Exchanges
import MachineCompiler.Proofs.Compile.SupportNames
import MachineCompiler.Proofs.Engine.Readiness
import MachineCompiler.Proofs.ProgramName.Places

/-!
# Knowing what is installed

What a compile knows about its engine in memory between two requests: which models are installed,
that no other programs are tracked, and that the engine was asked only for what it was ready for.
Every action of a compile keeps this, with more or fewer models known. An action that fails may
leave more programs behind than were known; these are on record, and nothing is known of their
models.
-/

namespace MachineCompiler

open Action
open Engine (Answer Exchange Ledger Memory ModuleRef Request Rules inMemory logged)
open SupportModule (isAnyIn)

variable {π α β : Type}

/-- All patterns that a check may look for. -/
def Phase.patterns : List String :=
  errorPatterns.map ErrorPattern.pattern ++ [typePattern]

theorem Phase.forall_patterns_readable :
    ∀ pattern ∈ patterns, (Engine.Pattern.read pattern).isOk = true :=
  List.forall_mem_append.2 ⟨List.forall_mem_map.2 patterns_readable.1,
    List.forall_mem_singleton.2 patterns_readable.2⟩

/-- Since `start` the engine was asked only for what it was ready for. -/
def Compile.Proper (start : List (Exchange Memory))
    (compile : Compile (Memory × List (Exchange Memory)) π) : Prop :=
  ∃ exchanges, compile.world.engine.2 = start ++ exchanges ∧
    ∀ exchange ∈ exchanges, exchange.Proper Phase.patterns

/-- What is known of a compile between two requests: what it is about, that the records are exact,
that the tracked programs are the known ones and are no support programs, that the known models are
installed, and that some support modules are. -/
structure Compile.Poised (setup : Setup (Memory × List (Exchange Memory)) π)
    (start : List (Exchange Memory)) (root : ProgramName) (current : Path)
    (support : List SupportModule) (known : List (ProgramName × String))
    (compile : Compile (Memory × List (Exchange Memory)) π) : Prop where
  exact : compile.Exact Memory.ledger.logged setup
  tracked : ∀ name, compile.installed.contains name = true ↔
    ∃ entry ∈ known, (entry.1 == name) = true
  apart : ∀ entry ∈ known, isAnyIn setup.toolchain.supportDirectory entry.1 = false
  held : ∀ entry ∈ known, ∃ model, compile.world.engine.1.modelOf entry.1 entry.2 = .ok model
  supplied : ∀ module ∈ support, module ∈ compile.installed.support
  proper : compile.Proper start
  named : compile.product.root = some root
  rootModule : compile.product.rootModule = Phase.rootModuleOf root
  current : compile.world.currentDirectory = current

/-- At least these programs are tracked. -/
def Compile.Lingers (setup : Setup (Memory × List (Exchange Memory)) π)
    (start : List (Exchange Memory)) (root : ProgramName) (current : Path)
    (known : List (ProgramName × String))
    (compile : Compile (Memory × List (Exchange Memory)) π) : Prop :=
  ∃ more, (∀ entry ∈ known, entry ∈ more) ∧ compile.Poised setup start root current [] more

/-- None of the known programs has the name. -/
def IsNew (known : List (ProgramName × String)) (name : ProgramName) : Prop :=
  ∀ entry ∈ known, (entry.1 == name) = false

open Compile (Poised Lingers)

variable {rules : Rules} {setup : Setup (Memory × List (Exchange Memory)) π}
  {start : List (Exchange Memory)} {root : ProgramName} {current : Path}
  {support : List SupportModule} {known : List (ProgramName × String)}
  {compile second : Compile (Memory × List (Exchange Memory)) π}

namespace Compile

theorem Proper.exchanged (h : compile.Proper start) {request : Request} {answer : Answer}
    {next : Memory} (hready : compile.world.engine.1.Ready request)
    (hfair : answer.Fair Phase.patterns) : (compile.exchanged request answer next).Proper start := by
  obtain ⟨exchanges, hlog, hproper⟩ := h
  refine ⟨exchanges ++ [⟨compile.world.engine.1, request, answer⟩], ?_, ?_⟩
  · show compile.world.engine.2 ++ _ = _
    rw [hlog, List.append_assoc]
  · exact List.forall_mem_append.2 ⟨hproper, List.forall_mem_singleton.2 ⟨hready, hfair⟩⟩

namespace Poised

/-- What is known is a matter of what the compile is about. -/
theorem same (h : compile.Poised setup start root current support known)
    (hsame : compile.bearing = second.bearing) :
    second.Poised setup start root current support known := by
  simp only [bearing, custody, Prod.mk.injEq] at hsame
  obtain ⟨⟨hengine, hcache, hinstalled⟩, hroot, hmodule, hcurrent⟩ := hsame
  have hexact := h.exact
  have hproper := h.proper
  rw [Compile.Exact, hengine, hcache, hinstalled] at hexact
  rw [Proper, hengine] at hproper
  refine ⟨hexact, hinstalled ▸ h.tracked, h.apart, hengine ▸ h.held, hinstalled ▸ h.supplied,
    hproper, hroot ▸ h.named, hmodule ▸ h.rootModule, ?_⟩
  rw [← h.current, World.currentDirectory, World.currentDirectory, hcurrent]

theorem lingers (h : compile.Poised setup start root current support known) :
    compile.Lingers setup start root current known :=
  ⟨known, fun _ => id, { h with supplied := List.forall_mem_nil _ }⟩

/-- The next request leaves the installed programs alone. -/
theorem exchanged (h : compile.Poised setup start root current support known) {request : Request}
    {answer : Answer} {next : Memory} (hready : compile.world.engine.1.Ready request)
    (hfair : answer.Fair Phase.patterns)
    (hinstalled : next.installed = compile.world.engine.1.installed) :
    (compile.exchanged request answer next).Poised setup start root current support known := by
  refine { h with
    exact := h.exact.same ⟨trivial, hinstalled⟩
    held := fun entry hentry => ?_
    proper := h.proper.exchanged hready hfair }
  obtain ⟨model, hmodel⟩ := h.held entry hentry
  exact ⟨model, (Memory.model_of_installed_eq hinstalled _ _).trans hmodel⟩

/-- A request that is refused changes nothing. -/
theorem refused (h : compile.Poised setup start root current support known) {request : Request}
    (hready : compile.world.engine.1.Ready request) :
    (compile.exchanged request (.failed request.verb (.notStarted request.verb))
      compile.world.engine.1).Poised setup start root current support known := by
  have hfair : (Answer.failed request.verb (.notStarted request.verb)).Fair Phase.patterns :=
    Or.inl rfl
  exact h.exchanged hready hfair rfl

/-- A name that is neither known nor that of a support program is free. -/
theorem is_installed_of_new (h : compile.Poised setup start root current support known)
    {name : ProgramName} (hnew : IsNew known name)
    (hname : isAnyIn setup.toolchain.supportDirectory name = false) :
    compile.world.engine.1.isInstalled name = false := by
  refine Bool.eq_false_iff.2 fun hinstalled => ?_
  obtain htracked | hmarked := (h.exact.held_iff name).1 hinstalled
  · obtain ⟨entry, hentry, hsame⟩ := (h.tracked name).1 htracked
    rw [hnew entry hentry] at hsame
    exact Bool.false_ne_true hsame
  · exact SupportModule.not_marks_of_not_any hname hmarked

/-- A known program is installed. -/
theorem is_installed_of_known (h : compile.Poised setup start root current support known)
    {entry : ProgramName × String} (hentry : entry ∈ known) :
    compile.world.engine.1.isInstalled entry.1 = true :=
  (h.exact.held_iff entry.1).2 (.inl ((h.tracked entry.1).2 ⟨entry, hentry, BEq.rfl⟩))

end Poised

end Compile

/-- What lingers is at least what is known of it. -/
theorem Compile.Lingers.mono {known' : List (ProgramName × String)}
    (h : compile.Lingers setup start root current known) (hless : ∀ entry ∈ known', entry ∈ known) :
    compile.Lingers setup start root current known' := by
  obtain ⟨more, hmore, hpoised⟩ := h
  exact ⟨more, fun entry hentry => hmore entry (hless entry hentry), hpoised⟩

theorem Compile.Lingers.proper (h : compile.Lingers setup start root current known) :
    compile.Proper start := by
  obtain ⟨more, -, hpoised⟩ := h
  exact hpoised.proper

namespace Action

/-- A gentle action leaves everything known as it is. -/
theorem Gentle.poised {action : Action (Memory × List (Exchange Memory)) π α}
    (h : Gentle setup action) :
    Triple setup (Poised setup start root current support known) action
      (fun _ => Poised setup start root current support known)
      (fun _ => Lingers setup start root current known) :=
  (Leaves.keeps h fun _ _ hsame hpoised => Poised.same hpoised hsame).triple.mono (fun _ => id)
    (fun _ _ => id) fun _ _ hpoised => hpoised.lingers

/-! ## Installing and removing -/

/-- An install that the engine is ready for is carried out, unless it is refused. -/
theorem run_install_ready (hengine : setup.engine = logged (inMemory rules))
    {program : Engine.Program} (hready : compile.world.engine.1.Ready (.install program)) :
    (Action.install program).run setup compile =
      if compile.world.engine.1.refused = some .install then
        (.error (.compiler (.engine .install (.notStarted .install))),
          compile.exchanged (.install program) (.failed .install (.notStarted .install))
            compile.world.engine.1)
      else
        (.ok (), compile.exchanged (.install program) (.installed .success)
          { compile.world.engine.1.record (.install program.name) with
            installed := compile.world.engine.1.installed ++ [program] }) := by
  rw [run_install, hengine]
  by_cases hrefused : compile.world.engine.1.refused = some .install <;>
    simp only [logged, Engine.log, Memory.install_ready hready, hrefused, if_true, if_false] <;> rfl

/-- An uninstall that the engine is ready for is carried out, unless it is refused. -/
theorem run_uninstall_ready (hengine : setup.engine = logged (inMemory rules))
    {first : ProgramName} {rest : List ProgramName}
    (hready : compile.world.engine.1.Ready (.uninstall (first :: rest))) :
    (uninstall (first :: rest)).run setup compile =
      if compile.world.engine.1.refused = some .uninstall then
        (.error (.compiler (.engine .uninstall (.notStarted .uninstall))),
          compile.exchanged (.uninstall (first :: rest)) (.failed .uninstall (.notStarted .uninstall))
            compile.world.engine.1)
      else
        (.ok (), { compile.exchanged (.uninstall (first :: rest)) (.uninstalled .success)
          { compile.world.engine.1.record (.uninstall (first :: rest)) with
            installed := Engine.without compile.world.engine.1.installed (first :: rest) } with
          installed := compile.installed.untrackAll (first :: rest) }) := by
  rw [run_uninstall, hengine]
  by_cases hrefused : compile.world.engine.1.refused = some .uninstall <;>
    simp only [logged, Engine.log, Memory.uninstall_ready hready, hrefused, if_true, if_false] <;>
      rfl

/-- A program with a new name may be installed, and is known from then on. -/
theorem install_temporary_poised (hengine : setup.engine = logged (inMemory rules))
    (program : Engine.Program) {model : Engine.Model} {module : String}
    (hnew : IsNew known program.name)
    (hname : isAnyIn setup.toolchain.supportDirectory program.name = false)
    (hmodel : program.model? module = some model) :
    Triple setup (Poised setup start root current support known) (installTemporary program)
      (fun _ compile =>
        compile.Poised setup start root current support ((program.name, module) :: known) ∧
          compile.world.engine.1.program? program.name = some program)
      (fun _ => Lingers setup start root current known) := by
  intro compile hpoised
  have hfree : compile.world.engine.1.Ready (.install program) :=
    hpoised.is_installed_of_new hnew hname
  rw [installTemporary, run_bind, run_install_ready hengine hfree]
  by_cases hrefused : compile.world.engine.1.refused = some .install
  · rw [if_pos hrefused]
    exact (hpoised.refused hfree).lingers
  · rw [if_neg hrefused]
    let next : Memory := { compile.world.engine.1.record (.install program.name) with
      installed := compile.world.engine.1.installed ++ [program] }
    have hfound : next.program? program.name = some program :=
      Memory.program_of_append rfl hfree
    have hexact : Compile.Exact Memory.ledger.logged setup
        { compile.exchanged (.install program) (.installed .success) next with
          installed := compile.installed.track program.name } :=
      hpoised.exact.install_tracked trivial hfree rfl
    show Poised _ _ _ _ _ _ _ ∧ _
    refine ⟨?_, hfound⟩
    refine { hpoised with
      exact := hexact
      tracked := fun name => ?_
      apart := List.forall_mem_cons.2 ⟨hname, hpoised.apart⟩
      held := List.forall_mem_cons.2 ⟨⟨model, Memory.model_of_ok_iff.2 ⟨_, hfound, hmodel⟩⟩, ?_⟩
      supplied := fun module hmodule => ?_
      proper := hpoised.proper.exchanged hfree rfl }
    · show (compile.installed.track program.name).contains name = true ↔ _
      rw [Installed.contains_track, hpoised.tracked, List.exists_mem_cons_iff, or_comm]
    · intro entry hentry
      obtain ⟨model, hheld⟩ := hpoised.held entry hentry
      exact ⟨model, Memory.model_of_append rfl hheld⟩
    · show module ∈ (compile.installed.track program.name).support
      rw [Installed.support_track]
      exact hpoised.supplied module hmodule

/-- A known program may be removed, and is known no longer. -/
theorem uninstall_poised (hengine : setup.engine = logged (inMemory rules))
    (entry : ProgramName × String) (hentry : entry ∈ known) :
    Triple setup (Poised setup start root current support known) (uninstall [entry.1])
      (fun _ => Poised setup start root current support
        (known.filter fun other => !(other.1 == entry.1)))
      (fun _ => Lingers setup start root current known) := by
  intro compile hpoised
  have hready : compile.world.engine.1.Ready (.uninstall [entry.1]) :=
    List.forall_mem_singleton.2 (hpoised.is_installed_of_known hentry)
  rw [run_uninstall_ready hengine hready]
  split
  · exact (hpoised.refused hready).lingers
  · refine { hpoised with
      exact := hpoised.exact.uninstall (List.forall_mem_singleton.2
        (SupportModule.not_marks_of_not_any (hpoised.apart entry hentry))) trivial rfl
      tracked := fun name => ?_
      apart := fun other hother => hpoised.apart other (List.mem_filter.1 hother).1
      held := fun other hother => ?_
      supplied := fun module hmodule => ?_
      proper := hpoised.proper.exchanged hready rfl }
    · show (compile.installed.untrackAll [entry.1]).contains name = true ↔ _
      rw [Installed.contains_untrack_all, hpoised.tracked]
      have hcongr {other : ProgramName × String} (hsame : (other.1 == name) = true) :
          (other.1 == entry.1) = (name == entry.1) := BEq.congr_left hsame
      constructor
      · rintro ⟨⟨other, hother, hsame⟩, hkept⟩
        refine ⟨other, List.mem_filter.2 ⟨hother, ?_⟩, hsame⟩
        rw [hcongr hsame]
        simpa using hkept
      · rintro ⟨other, hother, hsame⟩
        obtain ⟨hold, hkept⟩ := List.mem_filter.1 hother
        rw [hcongr hsame] at hkept
        exact ⟨⟨other, hold, hsame⟩, by simpa using hkept⟩
    · obtain ⟨hold, hkept⟩ := List.mem_filter.1 hother
      obtain ⟨model, hheld⟩ := hpoised.held other hold
      exact ⟨model, Memory.model_of_without rfl (by simpa using hkept) hheld⟩
    · show module ∈ (compile.installed.untrackAll [entry.1]).support
      rw [Installed.support_untrack_all]
      exact hpoised.supplied module hmodule

/-- The program of a support module that is not marked may be installed and then marked. -/
theorem install_support_poised (hengine : setup.engine = logged (inMemory rules))
    {program : Engine.Program} {module : SupportModule}
    (hname : ProgramName.ofPath (module.location setup.toolchain.supportDirectory) =
      .ok program.name) (hmodels : program.models = []) :
    Triple setup
      (fun compile => compile.Poised setup start root current support known ∧
        module ∉ compile.installed.support) (install program)
      (fun _ compile => Poised setup start root current (module :: support) known
        { compile with installed := compile.installed.markSupport module })
      (fun _ => Lingers setup start root current known) := by
  rintro compile ⟨hpoised, hunmarked⟩
  have hin : module.IsIn setup.toolchain.supportDirectory program.name := ⟨_, hname, BEq.rfl⟩
  have hfree : compile.world.engine.1.Ready (.install program) := by
    refine Bool.eq_false_iff.2 fun hheld => ?_
    obtain htracked | ⟨other, hmarked, hother⟩ := (hpoised.exact.held_iff program.name).1 hheld
    · obtain ⟨entry, hentry, hsame⟩ := (hpoised.tracked program.name).1 htracked
      have hany : isAnyIn setup.toolchain.supportDirectory entry.1 = true :=
        (SupportModule.is_any_in_congr hsame).trans (SupportModule.is_any_in_iff.2 ⟨module, hin⟩)
      rw [hpoised.apart entry hentry] at hany
      exact Bool.false_ne_true hany
    · exact hunmarked (hin.unique hother ▸ hmarked)
  rw [run_install_ready hengine hfree]
  by_cases hrefused : compile.world.engine.1.refused = some .install
  · rw [if_pos hrefused]
    exact (hpoised.refused hfree).lingers
  · rw [if_neg hrefused]
    refine { hpoised with
      exact := hpoised.exact.install_marked hname hmodels trivial hfree rfl
      tracked := fun name => ?_
      held := fun entry hentry => ?_
      supplied := List.forall_mem_cons.2 ⟨Installed.mem_mark_support.2 (.inr rfl),
        fun other hother => Installed.mem_mark_support.2 (.inl (hpoised.supplied other hother))⟩
      proper := hpoised.proper.exchanged hfree rfl }
    · rw [← hpoised.tracked, Installed.contains, Installed.contains,
        Installed.programs_mark_support]
      rfl
    · obtain ⟨model, hheld⟩ := hpoised.held entry hentry
      exact ⟨model, Memory.model_of_append rfl hheld⟩

/-- Support modules are installed unless they are marked. -/
theorem ensure_support_poised (hengine : setup.engine = logged (inMemory rules))
    (modules : List SupportModule) :
    Triple setup (Poised setup start root current support known) (ensureSupport modules)
      (fun _ => Poised setup start root current (modules ++ support) known)
      (fun _ => Lingers setup start root current known) := by
  induction modules generalizing support with
  | nil => exact .pure fun _ => id
  | cons module rest ih =>
    -- The modules are supplied from the first one on, so the first one is supplied to the others.
    have hrest : Triple setup (Poised setup start root current (module :: support) known)
        (ensureSupport rest) (fun _ => Poised setup start root current (module :: rest ++ support)
          known) (fun _ => Lingers setup start root current known) := by
      refine ih.mono (fun _ => id) (fun _ _ hpoised => ?_) fun _ _ => id
      refine { hpoised with supplied := fun other hother => hpoised.supplied other ?_ }
      simpa [or_left_comm] using hother
    refine .read_bind (.get_bind fun compile hpoised => ?_)
    split
    · rename_i hunmarked
      have hunmarked : module ∉ compile.installed.support := by
        simpa [Installed.hasSupport] using hunmarked
      refine Triple.bind (.of_except fun _ second _ hsecond => hsecond ▸ hpoised.lingers)
        fun (program, cache) => .given fun hload => ?_
      obtain ⟨hname, hmodels, hfaithful⟩ := hpoised.exact.faithful.load hload
      refine Triple.bind (Q := fun _ compile =>
        compile.Poised setup start root current support known ∧
          module ∉ compile.installed.support) ?_ fun _ => ?_
      · rintro _ rfl
        refine ⟨?_, hunmarked⟩
        exact { hpoised with exact := hpoised.exact.with_cache hfaithful }
      · refine (install_support_poised hengine hname hmodels).bind fun _ => ?_
        exact Triple.bind
          (Q := fun _ => Poised setup start root current (module :: support) known)
          (fun _ hmarked => hmarked) fun _ => hrest
    · rename_i hmarked
      have hmarked : module ∈ compile.installed.support := by
        simpa [Installed.hasSupport] using hmarked
      rintro _ rfl
      exact hrest _ { hpoised with supplied := List.forall_mem_cons.2 ⟨hmarked, hpoised.supplied⟩ }

/-! ## Asking for an operation -/

/-- An operation that the engine is ready for and that leaves the installed programs alone. -/
theorem ask_poised {verb : Engine.Verb} {request : Request} {keep : α → Answer}
    {operation : Memory → Except Engine.Error α × Memory}
    {P : Compile (Memory × List (Exchange Memory)) π → Prop} (hverb : request.verb = verb)
    (hready : ∀ compile, P compile → compile.Poised setup start root current support known ∧
      compile.world.engine.1.Ready request)
    (hfair : ∀ memory : Memory, memory.Ready request →
      (Answer.ofResult verb keep (operation memory).1).Fair Phase.patterns)
    (hsame : ∀ memory, (operation memory).2.installed = memory.installed) :
    Triple setup P (ask verb (Engine.log request keep operation))
      (fun value compile => compile.Poised setup start root current support known ∧
        ∃ memory, (operation memory).1 = .ok value)
      (fun _ => Lingers setup start root current known) := by
  refine .ask_log (fun compile value next hP hvalue => ?_) fun compile error next hP herror => ?_
  · obtain ⟨hpoised, hrequest⟩ := hready compile hP
    have hanswer := hfair _ hrequest
    have hkept := hsame compile.world.engine.1
    rw [hvalue] at hanswer hkept
    exact ⟨hpoised.exchanged hrequest hanswer hkept, _, by rw [hvalue]⟩
  · obtain ⟨hpoised, hrequest⟩ := hready compile hP
    have hanswer := hfair _ hrequest
    have hkept := hsame compile.world.engine.1
    rw [herror] at hanswer hkept
    rw [hverb]
    exact (hpoised.exchanged hrequest hanswer hkept).lingers

/-- What a step takes is there: its transform is a support module, and its modules are known. -/
def Takes (directory : Path) (support : List SupportModule) (known : List (ProgramName × String))
    (step : Engine.Step) : Prop :=
  (∃ module ∈ support, step.transform = module.reference directory) ∧
    ∀ reference, .module reference ∈ step.arguments →
      ∃ entry ∈ known, reference = .within entry.2 entry.1.shown

/-- The engine is ready for a step that takes what is there. -/
theorem Takes.ready {step : Engine.Step}
    (h : Takes setup.toolchain.supportDirectory support known step)
    (hpoised : compile.Poised setup start root current support known) :
    compile.world.engine.1.Ready (.apply step) := by
  obtain ⟨⟨module, hmodule, htransform⟩, harguments⟩ := h
  constructor
  · obtain ⟨place, hplace⟩ := hpoised.exact.placed module (hpoised.supplied module hmodule)
    obtain ⟨shown, hshown, hsame⟩ := ProgramName.of_path_shown hplace
    refine ⟨place, htransform ▸ ⟨_, rfl, shown, hshown, hsame⟩, ?_⟩
    exact (hpoised.exact.held_iff place).2
      (.inr ⟨module, hpoised.supplied module hmodule, place, hplace, BEq.rfl⟩)
  · intro reference hreference
    obtain ⟨entry, hentry, rfl⟩ := harguments reference hreference
    obtain ⟨model, hmodel⟩ := hpoised.held entry hentry
    obtain ⟨shown, hshown, hsame⟩ := ProgramName.of_path_shown (ProgramName.of_path_path entry.1)
    exact ⟨entry.1, model, ⟨_, rfl, shown, hshown, hsame⟩, hmodel⟩

/-- A step that takes what is there makes models under their own names. -/
theorem apply_poised (hengine : setup.engine = logged (inMemory rules)) {step : Engine.Step}
    (hstep : Takes setup.toolchain.supportDirectory support known step) :
    Triple setup (Poised setup start root current support known) (apply step)
      (fun result compile => compile.Poised setup start root current support known ∧ result.Named)
      (fun _ => Lingers setup start root current known) := by
  refine .read_bind ?_
  rw [hengine]
  refine (ask_poised rfl (fun _ hpoised => ⟨hpoised, hstep.ready hpoised⟩)
    (fun _ => Memory.apply_fair)
    fun memory => ((Engine.in_memory_keeps_to rules).apply step memory trivial).2).bind
      fun result => .given fun ⟨memory, hresult⟩ => ?_
  have hnamed : result.Named := Engine.named_of_apply hresult
  exact (Gentle.poised Leaves.add_flags).bind fun _ => .pure fun _ hpoised => ⟨hpoised, hnamed⟩

/-- What is taken out of a result is a program of the output's name, with the output as its one
model. -/
theorem extract_poised {result : Engine.ApplyResult} {ending : String} {first : String}
    (hnamed : result.Named) :
    Triple setup (Poised setup start root current support known)
      (extractWith first result (Phase.rootModuleOf root ++ ending))
      (fun program compile => compile.Poised setup start root current support known ∧
        Phase.outputName (setup.options.outputDirectoryIn current) (Phase.rootModuleOf root) ending
          = .ok program.name ∧
        ∃ model, program.models = [model] ∧ model.name = Phase.rootModuleOf root ++ ending)
      (fun _ => Lingers setup start root current known) := by
  refine Triple.bind (Q := fun name compile =>
    compile.Poised setup start root current support known ∧
      Phase.outputName (setup.options.outputDirectoryIn current) (Phase.rootModuleOf root) ending =
        .ok name) ?_ fun name => .given fun hname => ?_
  · refine Triple.bind (.output_directory fun _ hpoised => Poised.current hpoised)
      fun directory => .given fun hdirectory => ?_
    subst hdirectory
    exact .of_except fun _ _ _ hpoised => Poised.lingers hpoised
  split
  · rename_i program hprogram
    obtain ⟨rfl, hmodel⟩ := hnamed.extract hprogram
    exact .pure fun _ hpoised => ⟨hpoised, hname, hmodel⟩
  · exact fun _ hpoised => hpoised.lingers

/-! ## Programs that are installed for a while -/

/-- What is left over of a program with a new name is removed, or still lingers. -/
theorem uninstall_lingers (hengine : setup.engine = logged (inMemory rules))
    (entry : ProgramName × String) (hnew : IsNew known entry.1) :
    Triple setup (Lingers setup start root current (entry :: known)) (uninstall [entry.1])
      (fun _ => Lingers setup start root current known)
      (fun _ => Lingers setup start root current known) := by
  rintro compile ⟨more, hmore, hpoised⟩
  refine (uninstall_poised hengine entry (hmore entry List.mem_cons_self) compile hpoised).mono
    (fun _ _ hless => hless.lingers.mono fun other hother => ?_) fun _ _ hsame =>
      hsame.mono fun other hother => hmore other (List.mem_cons_of_mem _ hother)
  refine List.mem_filter.2 ⟨hmore other (List.mem_cons_of_mem _ hother), ?_⟩
  rw [hnew other hother]
  rfl

/-- A program with a new name that is installed for a while is known in between. -/
theorem bracket_poised (hengine : setup.engine = logged (inMemory rules))
    {program : Engine.Program} {model : Engine.Model} {module : String}
    {body : Action (Memory × List (Exchange Memory)) π α}
    {next : Except Failure α → Action (Memory × List (Exchange Memory)) π β}
    (hnew : IsNew known program.name)
    (hname : isAnyIn setup.toolchain.supportDirectory program.name = false)
    (hmodel : program.model? module = some model)
    (hbody : Triple setup
      (fun compile =>
        compile.Poised setup start root current support ((program.name, module) :: known) ∧
          compile.world.engine.1.program? program.name = some program)
      body (fun _ => Poised setup start root current support ((program.name, module) :: known))
      (fun _ => Lingers setup start root current ((program.name, module) :: known)))
    (hvalue : ∀ value, Triple setup (Poised setup start root current support known)
      (next (.ok value)) (fun _ => Poised setup start root current support known)
      (fun _ => Lingers setup start root current known))
    (herror : ∀ failure, Triple setup (Lingers setup start root current known)
      (next (.error failure)) (fun _ => Poised setup start root current support known)
      (fun _ => Lingers setup start root current known)) :
    Triple setup (Poised setup start root current support known)
      (do
        installTemporary program
        let outcome ← Rendering.attempt body
        uninstall [program.name]
        next outcome)
      (fun _ => Poised setup start root current support known)
      (fun _ => Lingers setup start root current known) := by
  refine (install_temporary_poised hengine program hnew hname hmodel).bind fun _ =>
    hbody.attempt.bind fun outcome => ?_
  cases outcome with
  | error failure =>
    exact (uninstall_lingers hengine (program.name, module) hnew).bind fun _ =>
      herror failure
  | ok value =>
    have hless : ((program.name, module) :: known).filter
        (fun other => !(other.1 == program.name)) = known := by
      rw [List.filter_cons_of_neg (by simp), List.filter_eq_self]
      exact fun other hother => by rw [hnew other hother]; rfl
    have hremoved : Triple setup
        (Poised setup start root current support ((program.name, module) :: known))
        (uninstall [program.name])
        (fun _ => Poised setup start root current support
          (((program.name, module) :: known).filter fun other => !(other.1 == program.name)))
        (fun _ => Lingers setup start root current ((program.name, module) :: known)) :=
      uninstall_poised hengine (program.name, module) List.mem_cons_self
    rw [hless] at hremoved
    exact (hremoved.mono (fun _ => id) (fun _ _ => id) fun _ _ hmore =>
      hmore.mono fun _ => List.mem_cons_of_mem _).bind fun _ => hvalue value

/-- A program with one model and a new name may be rendered. -/
theorem render_poised (hengine : setup.engine = logged (inMemory rules))
    {program : Engine.Program} {model : Engine.Model} (renderer appendix : String)
    (hnew : IsNew known program.name)
    (hname : isAnyIn setup.toolchain.supportDirectory program.name = false)
    (hmodels : program.models = [model]) :
    Triple setup (Poised setup start root current support known)
      (Rendering.render program renderer appendix)
      (fun _ => Poised setup start root current support known)
      (fun _ => Lingers setup start root current known) := by
  have hmodel : (Rendering.withRenderer program renderer).model? model.name = some model := by
    simp [Rendering.withRenderer, Engine.Program.withSetting, Engine.Program.model?, hmodels]
  unfold Rendering.render
  rw [hmodels]
  refine .read_bind (bracket_poised hengine hnew hname hmodel ?_ (fun rendered => ?_)
    fun _ _ hlingers => hlingers)
  · rw [hengine]
    refine (ask_poised rfl (fun compile hcompile => ?_) (fun _ => Memory.render_fair) fun memory =>
      ((Engine.in_memory_keeps_to rules).render _ _ memory trivial).2).mono
        (fun _ => id) (fun _ _ => And.left) fun _ _ => id
    obtain ⟨hpoised, hfound⟩ := hcompile
    refine ⟨hpoised, ⟨_, hfound, Rendering.setting_with_renderer program renderer⟩, model, ?_⟩
    exact Memory.model_of_ok_iff.2 ⟨_, hfound, hmodel⟩
  · refine Gentle.poised (.bind .of_except fun _ => .bind .add_flags fun _ => .ite ?_ .pure)
    exact .bind .output_directory fun directory => Rendering.write_files_gentle directory appendix _

end Action

end MachineCompiler
