import MachineCompiler.Engine.InMemory
import MachineCompiler.Proofs.Compile.SupportNames
import Mathlib.Data.List.Basic
import Mathlib.Data.List.Find

/-!
# Memories that differ in support programs only

Support programs have no models. So an engine in memory does not show which of them are installed,
what they were read from and where they stand in the order of installation, as long as it is asked
about other programs. Two memories agree when their other programs are the same ones in the same
order; every operation on other programs is answered alike by both and leaves them in agreement.
-/

namespace MachineCompiler.Engine

open SupportModule (isAnyIn is_any_in_congr)

variable {directory : Path} {memory first second : Memory} {name : ProgramName} {program : Program}
  {rules : Rules}

namespace Memory

/-- The installed programs that are no support programs, in their order. -/
def own (directory : Path) (memory : Memory) : List Program :=
  memory.installed.filter fun program => !isAnyIn directory program.name

/-- Nothing is refused, and the support programs have no models. -/
structure Plain (directory : Path) (memory : Memory) : Prop where
  refused : memory.refused = none
  blank : ∀ program ∈ memory.installed, isAnyIn directory program.name = true →
    program.models = []

/-! ## What other programs show -/

/-- What has the name of a program that is no support program is no support program. -/
theorem own_and_named (hname : isAnyIn directory name = false) (program : Program) :
    (!isAnyIn directory program.name && program.name == name) = (program.name == name) := by
  cases hnamed : program.name == name with
  | false => exact Bool.and_false _
  | true => rw [is_any_in_congr hnamed, hname]; rfl

/-- A program that is no support program is found among its like. -/
theorem program_eq_own (hname : isAnyIn directory name = false) (memory : Memory) :
    memory.program? name = (memory.own directory).find? fun program => program.name == name := by
  simp only [program?, own, List.find?_filter, ← Bool.and_eq_true_iff, own_and_named hname,
    Bool.decide_eq_true]

theorem is_installed_eq_own (hname : isAnyIn directory name = false) (memory : Memory) :
    memory.isInstalled name = (memory.own directory).any fun program => program.name == name := by
  simp only [isInstalled, own, List.any_filter, own_and_named hname]

/-- A module is found in programs that are no support programs, because those have none. -/
theorem find_model_eq_own (h : memory.Plain directory) (module : String) :
    memory.findModel? module =
      (memory.own directory).findSome? fun program => program.model? module := by
  obtain ⟨installed, calls, refused⟩ := memory
  have hblank := h.blank
  unfold findModel? own
  clear h
  induction installed with
  | nil => rfl
  | cons program rest ih =>
    obtain ⟨hprogram, hrest⟩ := List.forall_mem_cons.1 hblank
    cases hsupport : isAnyIn directory program.name with
    | false =>
      rw [List.filter_cons_of_pos (by rw [hsupport]; rfl), List.findSome?_cons,
        List.findSome?_cons, ih hrest]
    | true =>
      have hnone : program.model? module = none := by
        rw [Program.model?, hprogram hsupport]
        rfl
      rw [List.filter_cons_of_neg (by rw [hsupport]; decide), List.findSome?_cons, hnone, ih hrest]

/-! ## Agreement -/

/-- The memories have the same programs, support programs aside. -/
structure Agree (directory : Path) (first second : Memory) : Prop where
  plain : first.Plain directory
  plain' : second.Plain directory
  same : first.own directory = second.own directory

namespace Agree

theorem find_program (h : Agree directory first second) (hname : isAnyIn directory name = false) :
    first.program? name = second.program? name := by
  rw [program_eq_own hname, program_eq_own hname, h.same]

theorem is_installed (h : Agree directory first second) (hname : isAnyIn directory name = false) :
    first.isInstalled name = second.isInstalled name := by
  rw [is_installed_eq_own hname, is_installed_eq_own hname, h.same]

theorem find_model (h : Agree directory first second) (module : String) :
    first.findModel? module = second.findModel? module := by
  rw [find_model_eq_own h.plain, find_model_eq_own h.plain', h.same]

theorem model_of (h : Agree directory first second) (hname : isAnyIn directory name = false)
    (module : String) : first.modelOf name module = second.modelOf name module := by
  rw [modelOf, modelOf, h.find_program hname]

theorem read_arguments (h : Agree directory first second) (arguments : List Argument) :
    first.readArguments arguments = second.readArguments arguments := by
  induction arguments with
  | nil => rfl
  | cons argument rest ih =>
    cases argument with
    | module reference => rw [readArguments, readArguments, h.find_model, ih]
    | constant value => rw [readArguments, readArguments, ih]

/-- A step is carried out alike when its transform is missing in both memories or in none. -/
theorem run_step (h : Agree directory first second) {step : Step}
    (hmissing : first.missingTransform? step = second.missingTransform? step) :
    first.runStep rules step = second.runStep rules step := by
  rw [runStep, runStep, hmissing, h.read_arguments]

theorem render_module (h : Agree directory first second) (hname : isAnyIn directory name = false)
    (module : String) : first.renderModule name module = second.renderModule name module := by
  rw [renderModule, renderModule, h.find_program hname, h.model_of hname]

end Agree

/-! ## Operations -/

/-- Writing down what was started changes nothing else. -/
theorem Plain.record (h : memory.Plain directory) (call : Call) :
    (memory.record call).Plain directory :=
  ⟨h.refused, h.blank⟩

theorem Agree.record (h : Agree directory first second) (call : Call) :
    Agree directory (first.record call) (second.record call) :=
  ⟨h.plain.record call, h.plain'.record call, h.same⟩

/-- Both memories answer the operation alike, and they agree afterwards. -/
def Alike {α : Type} (directory : Path) (operation : Memory → Except Error α × Memory)
    (first second : Memory) : Prop :=
  (operation first).1 = (operation second).1 ∧
    Agree directory (operation first).2 (operation second).2

/-- What is started is answered as the operation itself. -/
theorem Agree.started (h : Agree directory first second) {α : Type} {verb : Verb} {call : Call}
    {operation : Memory → Except Error α × Memory}
    (hoperation : Alike directory operation (first.record call) (second.record call)) :
    Alike directory (start verb call operation) first second := by
  unfold Alike start
  rw [h.plain.refused, h.plain'.refused, if_neg (by simp)]
  exact hoperation

theorem Plain.append (h : memory.Plain directory)
    (hprogram : isAnyIn directory program.name = true → program.models = []) :
    { memory with installed := memory.installed ++ [program] }.Plain directory := by
  refine ⟨h.refused, fun other hother hsupport => ?_⟩
  obtain hold | hnew := List.mem_append.1 hother
  · exact h.blank other hold hsupport
  · obtain rfl := List.mem_singleton.1 hnew
    exact hprogram hsupport

theorem own_append (hname : isAnyIn directory program.name = false) (memory : Memory) :
    { memory with installed := memory.installed ++ [program] }.own directory =
      memory.own directory ++ [program] := by
  simp [own, hname]

/-- One more support program does not change the other ones. -/
theorem own_append_support (hname : isAnyIn directory program.name = true) (memory : Memory) :
    { memory with installed := memory.installed ++ [program] }.own directory =
      memory.own directory := by
  simp [own, hname]

/-- Nothing keeps a program with a new name from being installed in a plain memory. -/
theorem Plain.install_new (h : memory.Plain directory)
    (hnew : memory.isInstalled program.name = false) :
    (inMemory rules).install program memory =
      (.ok .success, { memory.record (.install program.name) with
        installed := memory.installed ++ [program] }) := by
  have hnew' : (memory.record (.install program.name)).isInstalled program.name = false := hnew
  simp only [inMemory, start, h.refused, reduceCtorEq, if_false, installProgram, hnew',
    Bool.false_eq_true]
  rfl

/-- Nothing keeps installed programs from being removed when nothing is refused. -/
theorem uninstall_held {names : List ProgramName} (hrefused : memory.refused = none)
    (hheld : ∀ name ∈ names, memory.isInstalled name = true) :
    (inMemory rules).uninstall names memory =
      (.ok .success, { memory.record (.uninstall names) with
        installed := memory.installed.filter fun program => !names.any (program.name == ·) }) := by
  have hnone : (names.find? fun name =>
      !(memory.record (.uninstall names)).isInstalled name) = none := by
    refine List.find?_eq_none.2 fun name hname hmissing => ?_
    rw [show (memory.record (.uninstall names)).isInstalled name = true from hheld name hname]
      at hmissing
    contradiction
  simp only [inMemory, start, hrefused, reduceCtorEq, if_false, uninstallPrograms, hnone]
  rfl

/-- A program that is no support program is installed in both memories or in none. -/
theorem Agree.install_program (h : Agree directory first second)
    (hname : isAnyIn directory program.name = false) :
    (first.installProgram program).1 = (second.installProgram program).1 ∧
      Agree directory (first.installProgram program).2 (second.installProgram program).2 := by
  have hinstalled := h.is_installed hname
  unfold installProgram
  rw [hinstalled]
  split
  · exact ⟨rfl, h⟩
  · have hmodels : isAnyIn directory program.name = true → program.models = [] := by
      rw [hname]
      exact fun hsupport => absurd hsupport Bool.false_ne_true
    refine ⟨rfl, h.plain.append hmodels, h.plain'.append hmodels, ?_⟩
    rw [own_append hname, own_append hname, h.same]

/-- Programs that are no support programs are removed from both memories or from none. -/
theorem Agree.uninstall_programs (h : Agree directory first second) {names : List ProgramName}
    (hnames : ∀ name ∈ names, isAnyIn directory name = false) :
    (first.uninstallPrograms names).1 = (second.uninstallPrograms names).1 ∧
      Agree directory (first.uninstallPrograms names).2 (second.uninstallPrograms names).2 := by
  have hmissing : (names.find? fun name => !first.isInstalled name) =
      names.find? fun name => !second.isInstalled name :=
    List.find?_congr fun name hname => by rw [h.is_installed (hnames name hname)]
  unfold uninstallPrograms
  rw [hmissing]
  split
  · exact ⟨rfl, h⟩
  · refine ⟨rfl, ⟨h.plain.refused, fun program hmem => ?_⟩,
      ⟨h.plain'.refused, fun program hmem => ?_⟩, ?_⟩
    · exact h.plain.blank program (List.mem_filter.1 hmem).1
    · exact h.plain'.blank program (List.mem_filter.1 hmem).1
    · show List.filter _ (List.filter _ _) = List.filter _ (List.filter _ _)
      rw [List.filter_comm, show List.filter _ first.installed = _ from h.same, List.filter_comm]
      rfl

variable {rules : Rules}

theorem Agree.install (h : Agree directory first second)
    (hname : isAnyIn directory program.name = false) :
    Alike directory ((inMemory rules).install program) first second := by
  refine h.started ?_
  obtain ⟨houtcome, hagree⟩ := (h.record (.install program.name)).install_program hname
  exact ⟨congrArg Except.ok houtcome, hagree⟩

theorem Agree.uninstall (h : Agree directory first second) {names : List ProgramName}
    (hnames : ∀ name ∈ names, isAnyIn directory name = false) :
    Alike directory ((inMemory rules).uninstall names) first second := by
  refine h.started ?_
  obtain ⟨houtcome, hagree⟩ := (h.record (.uninstall names)).uninstall_programs hnames
  exact ⟨congrArg Except.ok houtcome, hagree⟩

/-- An operation that leaves the memory is answered alike when its answers are the same. -/
theorem Agree.asked (h : Agree directory first second) {α : Type} {verb : Verb} {call : Call}
    {answer : Memory → Except Error α}
    (hanswer : answer (first.record call) = answer (second.record call)) :
    Alike directory (start verb call fun memory => (answer memory, memory)) first second :=
  h.started ⟨hanswer, h.record call⟩

theorem Agree.query (h : Agree directory first second) (hname : isAnyIn directory name = false)
    (module : String) (goals : List String) :
    Alike directory ((inMemory rules).query name module goals) first second :=
  h.asked (congrArg (Except.map _) ((h.record _).model_of hname module))

theorem Agree.apply (h : Agree directory first second) {step : Step}
    (hmissing : first.missingTransform? step = second.missingTransform? step) :
    Alike directory ((inMemory rules).apply step) first second :=
  h.asked ((h.record _).run_step hmissing)

theorem Agree.render (h : Agree directory first second) (hname : isAnyIn directory name = false)
    (module : String) : Alike directory ((inMemory rules).render name module) first second :=
  h.asked ((h.record _).render_module hname module)

end Memory

end MachineCompiler.Engine
