import MachineCompiler.Proofs.Engine.Checking
import MachineCompiler.Proofs.Source.Mirror
import MachineCompiler.Source.Implementation

/-!
# What is checked of a program

Outside of tests a program is checked without its specification machines. What is left of a program
that mirrors lines is told from the lines alone, and so is whether it passes the check.
-/

namespace MachineCompiler.Source

/-- The functions of the owner are checked: in tests all are, and otherwise those that belong to no
specification machine. -/
def Kept (test : Bool) (lines : List Line) (owner : Option String) : Prop :=
  test = true ∨ ∀ name, owner = some name → .machine .spec name ∉ lines

/-- Every function that is checked and uses a variable belongs to a machine for which some line
declares the variable, before the function or after it. -/
def VariablesDeclared (test : Bool) (lines : List Line) : Prop :=
  ∀ path owner name used, .function path owner name (some used) ∈ lines → Kept test lines owner →
    ∃ machine, owner = some machine ∧ ∃ path, .variable path machine used ∈ lines

/-- The names of the functions that are global or belong to no specification machine, in the order of
their lines. -/
def implementedFunctions (lines : List Line) : List String :=
  lines.filterMap fun line =>
    match line with
    | .function _ owner name _ =>
      if owner.any fun machine => lines.contains (.machine .spec machine) then none else some name
    | _ => none

namespace Program

/-- The part of a program that is checked. -/
def checked (program : Program) (test : Bool) : Program :=
  if test then program else program.implementation

/-- What belongs to the machine is checked. -/
def KeepsOf (program : Program) (test : Bool) (id : DeclarationId) : Prop :=
  test = true ∨ id ∉ program.specMachines

variable {program : Program} {test : Bool} {lines : List Line}

theorem mem_checked_functions {entry : DeclarationId × Function} :
    entry ∈ (program.checked test).functions ↔
      entry ∈ program.functions ∧ ∀ id, entry.2.owner = some id → program.KeepsOf test id := by
  unfold checked KeepsOf
  cases test with
  | true => simp
  | false =>
    rw [implementation]
    by_cases hnone : program.specMachines = []
    · simp [hnone]
    · cases howner : entry.2.owner <;> simp [hnone, howner]

theorem mem_checked_variables {entry : DeclarationId × Variable} :
    entry ∈ (program.checked test).machineVariables ↔
      entry ∈ program.machineVariables ∧ program.KeepsOf test entry.2.owner := by
  unfold checked KeepsOf
  cases test with
  | true => simp
  | false =>
    rw [implementation]
    by_cases hnone : program.specMachines = [] <;> simp [hnone]

theorem mem_checked_machines {entry : DeclarationId × Machine} :
    entry ∈ (program.checked test).machines ↔
      entry ∈ program.machines ∧ program.KeepsOf test entry.1 := by
  unfold checked KeepsOf
  cases test with
  | true => simp
  | false =>
    rw [implementation]
    by_cases hnone : program.specMachines = [] <;> simp [hnone]

/-- A program holds its machines. -/
theorem holds_machine {id : DeclarationId} {machine : Machine}
    (h : (id, machine) ∈ program.machines) : program.holds ⟨.machine, id⟩ = true :=
  holds_iff.2 ⟨.machine machine, List.mem_map.2 ⟨_, h, rfl⟩⟩

/-- Lines that declare the same name are the same line when no name is declared twice. -/
theorem eq_of_declared (hnodup : (lines.filterMap Line.declared?).Nodup) {first second : Line}
    (hfirst : first ∈ lines) (hsecond : second ∈ lines) {declared : Category × String}
    (hdeclared : first.declared? = some declared) (hdeclared' : second.declared? = some declared) :
    first = second := by
  have hapart := List.pairwise_filterMap.1 hnodup
  clear hnodup
  induction hapart with
  | nil => contradiction
  | cons hline _ ih =>
    rcases List.mem_cons.1 hfirst with rfl | hfirst' <;>
      rcases List.mem_cons.1 hsecond with rfl | hsecond'
    · rfl
    · exact absurd rfl (hline second hsecond' declared hdeclared declared hdeclared')
    · exact absurd rfl (hline first hfirst' declared hdeclared' declared hdeclared)
    · exact ih hfirst' hsecond'

namespace Mirrors

variable {name : String} {id : DeclarationId}

/-- The machine of a name is a specification exactly if a line declares it as one. -/
theorem mem_spec_machines (h : program.Mirrors lines)
    (hnodup : (lines.filterMap Line.declared?).Nodup) (hnames : program.Names name id) :
    id ∈ program.specMachines ↔ .machine .spec name ∈ lines := by
  obtain ⟨machine, hmachine, hname⟩ := hnames.mem
  have hspec : id ∈ program.specMachines ↔ machine.role = .spec := by
    simp only [specMachines, List.mem_map, List.mem_filter, Machine.isSpec, beq_iff_eq]
    constructor
    · rintro ⟨⟨_, other⟩, ⟨hother, hrole⟩, rfl⟩
      have hids := h.ordered.nodup_ids .machine
      have hget := Table.get_of_mem hids hmachine
      rw [Table.get_of_mem hids hother] at hget
      cases hget
      exact hrole
    · exact fun hrole => ⟨_, ⟨hmachine, hrole⟩, rfl⟩
  have hline : .machine machine.role name ∈ lines :=
    h.mem_machine_lines.2 ⟨_, hmachine, rfl, hname⟩
  rw [hspec]
  constructor
  · intro hrole
    rwa [hrole] at hline
  · intro hother
    exact (Line.machine.inj (eq_of_declared hnodup hline hother rfl rfl)).1

/-- A machine has one name. -/
theorem name_unique (h : program.Mirrors lines) {other : String} (hnames : program.Names name id)
    (hother : program.Names other id) : name = other := by
  obtain ⟨machine, hmachine, rfl⟩ := hnames.mem
  obtain ⟨machine', hmachine', rfl⟩ := hother.mem
  have hids := h.ordered.nodup_ids .machine
  have hget := Table.get_of_mem hids hmachine
  rw [Table.get_of_mem hids hmachine'] at hget
  cases hget
  rfl

/-- A function is checked exactly if the line that declares it tells so. -/
theorem kept_iff (h : program.Mirrors lines) (hnodup : (lines.filterMap Line.declared?).Nodup)
    {owner : Option String} {found : Option DeclarationId} (howns : program.Owns owner found) :
    (∀ id, found = some id → program.KeepsOf test id) ↔ Kept test lines owner := by
  cases owner with
  | none =>
    cases found with
    | none => exact ⟨fun _ => .inr fun _ hnone => (nomatch hnone), fun _ _ hnone => (nomatch hnone)⟩
    | some id => contradiction
  | some name =>
    cases found with
    | none => contradiction
    | some id =>
      simp only [Option.some.injEq, forall_eq', KeepsOf, Kept, h.mem_spec_machines hnodup howns]

/-- What is checked of a program belongs to machines that are checked. -/
theorem owners_held (h : program.Mirrors lines) : (program.checked test).OwnersHeld where
  machineVariables entry hentry := by
    obtain ⟨hmem, hkept⟩ := mem_checked_variables.1 hentry
    obtain ⟨declared, -, -, hnames⟩ := exists_related h.variableLines hmem
    obtain ⟨machine, hmachine, -⟩ := hnames.mem
    exact holds_machine (mem_checked_machines.2 ⟨hmachine, hkept⟩)
  functions entry hentry id howner := by
    obtain ⟨hmem, hkept⟩ := mem_checked_functions.1 hentry
    obtain ⟨⟨owner, _⟩, -, howns, -⟩ := exists_related h.functionLines hmem
    rw [howner] at howns
    cases owner with
    | none => contradiction
    | some owner =>
      obtain ⟨machine, hmachine, -⟩ := Names.mem howns
      exact holds_machine (mem_checked_machines.2 ⟨hmachine, hkept id howner⟩)

theorem mem_variable_lines {machine used : String} :
    (machine, used) ∈ lines.filterMap Line.variableOf? ↔
      ∃ path, .variable path machine used ∈ lines := by
  rw [List.mem_filterMap]
  constructor
  · rintro ⟨line, hline, hvariable⟩
    cases line <;> cases hvariable
    exact ⟨_, hline⟩
  · exact fun ⟨path, hline⟩ => ⟨_, hline, rfl⟩

theorem mem_function_lines {owner used : Option String} {name : String} :
    (owner, name, used) ∈ lines.filterMap Line.functionOf? ↔
      ∃ path, .function path owner name used ∈ lines := by
  rw [List.mem_filterMap]
  constructor
  · rintro ⟨line, hline, hfunction⟩
    cases line <;> cases hfunction
    exact ⟨_, hline⟩
  · exact fun ⟨path, hline⟩ => ⟨_, hline, rfl⟩

/-- The body of a function uses what its line says. -/
theorem uses_of_body (line : NumberedLine) (used : Option String) :
    usesOf (line.body used) = used.toList := by
  cases used <;> rfl

/-- Every variable that is used in what is checked is declared exactly if the lines declare it. -/
theorem uses_declared_iff (h : program.Mirrors lines)
    (hnodup : (lines.filterMap Line.declared?).Nodup) :
    (program.checked test).UsesDeclared ↔ VariablesDeclared test lines := by
  constructor
  · intro huses path owner name used hline hkept
    obtain ⟨entry, hentry, howns, -, line, hbody⟩ :=
      exists_related (List.Forall₂.flip h.functionLines) (mem_function_lines.2 ⟨path, hline⟩)
    have hchecked := mem_checked_functions.2 ⟨hentry, (h.kept_iff hnodup howns).2 hkept⟩
    have hused : used ∈ usesOf entry.2.body := by simp [hbody, uses_of_body]
    obtain ⟨id, howner, variableEntry, hvariable, rfl, rfl⟩ := huses entry hchecked used hused
    rw [howner] at howns
    cases owner with
    | none => contradiction
    | some machine =>
      obtain ⟨⟨other, _⟩, hother, hsame, hnames⟩ :=
        exists_related h.variableLines (mem_checked_variables.1 hvariable).1
      obtain rfl := h.name_unique howns hnames
      refine ⟨machine, rfl, mem_variable_lines.1 ?_⟩
      rwa [hsame]
  · intro hlines entry hentry used hused
    obtain ⟨hmem, hkept⟩ := mem_checked_functions.1 hentry
    obtain ⟨⟨owner, name, body⟩, hline, howns, -, line, hbody⟩ :=
      exists_related h.functionLines hmem
    rw [hbody, uses_of_body, Option.mem_toList] at hused
    obtain rfl : body = some used := hused
    obtain ⟨path, hfunction⟩ := mem_function_lines.1 hline
    obtain ⟨machine, rfl, hdeclared⟩ :=
      hlines path owner name used hfunction ((h.kept_iff hnodup howns).1 hkept)
    cases howner : entry.2.owner with
    | none =>
      rw [howner] at howns
      contradiction
    | some id =>
      rw [howner] at howns
      obtain ⟨variableEntry, hvariable, hsame, hnames⟩ :=
        exists_related (List.Forall₂.flip h.variableLines) (mem_variable_lines.2 hdeclared)
      obtain rfl := Names.unique howns hnames
      exact ⟨_, rfl, variableEntry, mem_checked_variables.2 ⟨hvariable, hkept _ howner⟩, rfl, hsame⟩

/-- The functions of the implemented part are those that the lines tell, in the order of the lines. -/
theorem implemented_functions_eq (h : program.Mirrors lines)
    (hnodup : (lines.filterMap Line.declared?).Nodup) :
    program.implementation.functions.map (fun entry => entry.2.name) =
      implementedFunctions lines := by
  have hfunctions : program.implementation.functions =
      program.functions.filter fun entry => !entry.2.owner.any program.specMachines.contains := by
    rw [implementation]
    by_cases hnone : program.specMachines = []
    · rw [hnone, List.isEmpty_nil, if_pos rfl]
      refine (List.filter_eq_self.2 fun entry _ => ?_).symm
      cases entry.2.owner <;> rfl
    · simp [hnone]
  -- A function and the line that declares it are kept together.
  have hkept : ∀ ⦃entry : DeclarationId × Function⦄
      ⦃declared : Option String × String × Option String⦄, program.Performs entry.2 declared →
        ((!entry.2.owner.any program.specMachines.contains) = true ↔
          (!declared.1.any fun machine => lines.contains (.machine .spec machine)) = true) := by
    rintro entry ⟨owner, declared⟩ ⟨howns, -⟩
    have hiff : (∀ id, entry.2.owner = some id → program.KeepsOf false id) ↔
        Kept false lines owner := h.kept_iff hnodup howns
    simp only [KeepsOf, Kept, Bool.false_eq_true, false_or] at hiff
    cases owner <;> cases howner : entry.2.owner <;> simp_all
  have hrelated := List.rel_filter hkept h.functionLines
  have hnames : program.implementation.functions.map (fun entry => entry.2.name) =
      ((lines.filterMap Line.functionOf?).filter fun declared =>
        !declared.1.any fun machine => lines.contains (.machine .spec machine)).map
          fun declared => declared.2.1 := by
    rw [hfunctions, ← List.forall₂_eq_eq_eq, List.forall₂_map_left_iff, List.forall₂_map_right_iff]
    exact hrelated.imp fun _ _ hperforms => hperforms.2.1
  rw [hnames, List.filter_filterMap, List.map_filterMap, implementedFunctions]
  refine congrArg (List.filterMap · lines) (funext fun line => ?_)
  cases line <;> try rfl
  rename_i path owner name used
  simp only [Line.functionOf?, Option.filter_some]
  cases owner.any fun machine => lines.contains (.machine .spec machine) <;> rfl

end Mirrors

end Program

end MachineCompiler.Source
