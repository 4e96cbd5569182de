import MachineCompiler.Proofs.Source.Building
import MachineCompiler.Source.Implementation

/-!
# Ownership and the implemented part of a program

The implemented part is made table by table, each by a test of its own, while ownership is one
function that follows references. For programs in order the two agree: what is left are the
declarations that no specification machine owns. A declaration and what it refers to have the same
owner, so references that lead somewhere still do.
-/

namespace MachineCompiler.Source.Program

variable {program : Program} {id : DeclarationId} {reference : Reference}

-- The equations of the recursion, one for each kind of declaration.
attribute [local simp] owner?

/-- A specification machine of the program owns what the reference leads to. -/
def isSpecOwned (program : Program) (reference : Reference) : Bool :=
  (program.owner? reference).any fun owner => (program.machines.get? owner).any Machine.isSpec

/-- Every reference of a declaration leads to a declaration. -/
def Closed (program : Program) : Prop :=
  ∀ kind, ∀ entry ∈ program.table kind, ∀ reference ∈ entry.2.references,
    program.holds reference = true

/-- Every transition joins two states of one machine. -/
def JoinsWithin (program : Program) : Prop :=
  ∀ entry ∈ program.transitions, ∀ source target,
    program.states.get? entry.2.source = some source →
      program.states.get? entry.2.target = some target → source.owner = target.owner

/-! ## Owners of what is listed -/

theorem owner_machine : program.owner? ⟨.machine, id⟩ = some id := by
  simp

theorem owner_state (h : program.Ordered) {state : State} (hmem : (id, state) ∈ program.states) :
    program.owner? ⟨.state, id⟩ = some state.owner := by
  rw [owner?, Table.get_of_mem (h.nodup_ids .state) hmem]
  rfl

theorem owner_variable (h : program.Ordered) {declaration : Variable}
    (hmem : (id, declaration) ∈ program.machineVariables) :
    program.owner? ⟨.variable, id⟩ = some declaration.owner := by
  rw [owner?, Table.get_of_mem (h.nodup_ids .variable) hmem]
  rfl

theorem owner_function (h : program.Ordered) {function : Function}
    (hmem : (id, function) ∈ program.functions) :
    program.owner? ⟨.function, id⟩ = function.owner := by
  rw [owner?, Table.get_of_mem (h.nodup_ids .function) hmem]
  rfl

theorem owner_anon_function (h : program.Ordered) {function : AnonFunction}
    (hmem : (id, function) ∈ program.anonFunctions) :
    program.owner? ⟨.anonFunction, id⟩ = function.owner := by
  rw [owner?, Table.get_of_mem (h.nodup_ids .anonFunction) hmem]
  rfl

/-- A transition belongs to the owner of the state that it starts from. -/
theorem owner_transition (h : program.Ordered) {transition : Transition}
    (hmem : (id, transition) ∈ program.transitions) :
    program.owner? ⟨.transition, id⟩ = program.owner? ⟨.state, transition.source⟩ := by
  rw [owner?, owner?, Table.get_of_mem (h.nodup_ids .transition) hmem]
  rfl

/-- A handler belongs to the owner of its state. -/
theorem owner_handler (h : program.Ordered) {handler : Handler}
    (hmem : (id, handler) ∈ program.handlers) :
    program.owner? ⟨.handler, id⟩ = program.owner? ⟨.state, handler.source⟩ := by
  rw [owner?, owner?, Table.get_of_mem (h.nodup_ids .handler) hmem]
  rfl

/-- A property belongs to the owner of its target, which is an earlier declaration. -/
theorem owner_property (h : program.Ordered) {property : Property}
    (hmem : (id, property) ∈ program.properties) :
    program.owner? ⟨.property, id⟩ = program.owner? property.target := by
  have hearlier : property.target.id < id :=
    h.earlier .property (id, .property property) (List.mem_map.2 ⟨_, hmem, rfl⟩) _
      List.mem_cons_self
  -- Ownership follows the target of a property only to smaller identifiers.
  rw [owner?, Table.get_of_mem (h.nodup_ids .property) hmem]
  exact if_pos hearlier

/-! ## What is left -/

theorem contains_spec_machines (h : program.Ordered) :
    program.specMachines.contains id = (program.machines.get? id).any Machine.isSpec :=
  Table.contains_ids_filter (h.nodup_ids .machine) Machine.isSpec

theorem is_spec_owned_eq (h : program.Ordered) :
    program.isSpecOwned reference = (program.owner? reference).any program.specMachines.contains := by
  unfold isSpecOwned
  congr 1
  exact funext fun owner => (contains_spec_machines h).symm

/-- The states of the specification machines are the states that one of them owns. -/
theorem contains_spec_states (h : program.Ordered) :
    (program.statesOf program.specMachines).contains id = program.isSpecOwned ⟨.state, id⟩ := by
  rw [is_spec_owned_eq h, owner?, Option.any_map]
  exact Table.contains_ids_filter (h.nodup_ids .state) fun state =>
    program.specMachines.contains state.owner

/-- Without specification machines nothing is owned by one. -/
theorem is_spec_owned_of_no_spec (h : program.Ordered) (hnone : program.specMachines = []) :
    program.isSpecOwned reference = false := by
  rw [is_spec_owned_eq h, hnone]
  cases program.owner? reference <;> rfl

/-- The test of each table says whether a specification machine owns the declaration. -/
theorem implementation_eq_of_ordered (h : program.Ordered) :
    program.implementation = program.restrict fun reference => !program.isSpecOwned reference := by
  simp only [implementation]
  split
  · rename_i hnone
    refine (restrict_eq_self fun reference => ?_).symm
    rw [is_spec_owned_of_no_spec h (List.isEmpty_iff.1 hnone), Bool.not_false]
  · have htop {α : Type} (table : Table α) {kind : Kind}
        (hkind : ∀ id, program.owner? ⟨kind, id⟩ = none) :
        table = table.filter fun entry => !program.isSpecOwned ⟨kind, entry.1⟩ :=
      (List.filter_eq_self.2 fun entry _ => by rw [isSpecOwned, hkind]; rfl).symm
    have hspec (reference : Reference) :
        program.isSpecOwned reference =
          (program.owner? reference).any program.specMachines.contains := is_spec_owned_eq h
    simp only [restrict, emptyLike, emptyFrom, Program.mk.injEq, and_true]
    -- Types and events have no owner and are all kept; each other table has its own test.
    refine ⟨htop _ fun id => by simp, htop _ fun id => by simp, htop _ fun id => by simp,
      htop _ fun id => by simp, ?machineTable, ?stateTable, ?variableTable, ?transitionTable, ?functionTable,
      ?anonFunctionTable, ?handlerTable, ?propertyTable⟩ <;>
    refine List.filter_congr fun entry hmem => congrArg not ?_
    case machineTable => rw [hspec, owner_machine, Option.any_some]
    case stateTable => rw [contains_spec_states h]
    case variableTable => rw [hspec, owner_variable h hmem, Option.any_some]
    case transitionTable => rw [contains_spec_states h, hspec, hspec, owner_transition h hmem]
    case functionTable => rw [hspec, owner_function h hmem]
    case anonFunctionTable => rw [hspec, owner_anon_function h hmem]
    case handlerTable => rw [contains_spec_states h, hspec, hspec, owner_handler h hmem]
    case propertyTable => rw [hspec, owner_property h hmem, ownedByOneOf]

/-! ## References of what is left -/

theorem state_of_holds (h : program.holds ⟨.state, id⟩ = true) :
    ∃ state, (id, state) ∈ program.states := by
  obtain ⟨declaration, hmem⟩ := holds_iff.1 h
  obtain ⟨⟨_, state⟩, hlisted, heq⟩ := List.mem_map.1 hmem
  cases heq
  exact ⟨state, hlisted⟩

/-- A declaration that refers to another one belongs to the machine that the other one belongs
to. -/
theorem owner_of_reference (h : program.Ordered) (hclosed : program.Closed)
    (hjoins : program.JoinsWithin) {kind : Kind} {entry : DeclarationId × Declaration}
    (hmem : entry ∈ program.table kind) (hreference : reference ∈ entry.2.references) :
    program.owner? ⟨kind, entry.1⟩ = program.owner? reference := by
  have hholds := hclosed kind entry hmem reference hreference
  cases kind <;> obtain ⟨⟨id, declaration⟩, hlisted, rfl⟩ := List.mem_map.1 hmem
  case state =>
    obtain rfl := List.mem_singleton.1 hreference
    exact (owner_state h hlisted).trans owner_machine.symm
  case «variable» =>
    obtain rfl := List.mem_singleton.1 hreference
    exact (owner_variable h hlisted).trans owner_machine.symm
  case transition =>
    obtain ⟨source, hsource⟩ := state_of_holds
      (hclosed .transition _ hmem ⟨.state, declaration.source⟩ List.mem_cons_self)
    refine (owner_transition h hlisted).trans ?_
    obtain rfl | hrest := List.mem_cons.1 hreference
    · rfl
    · obtain rfl := List.mem_singleton.1 hrest
      -- The target is where a transition could leave its machine.
      obtain ⟨target, htarget⟩ := state_of_holds hholds
      rw [owner_state h hsource, owner_state h htarget]
      exact congrArg some (hjoins _ hlisted source target
        (Table.get_of_mem (h.nodup_ids .state) hsource)
        (Table.get_of_mem (h.nodup_ids .state) htarget))
  case function =>
    obtain ⟨owner, howner, rfl⟩ := List.mem_map.1 hreference
    rw [owner_machine, ← Option.mem_toList.1 howner]
    exact owner_function h hlisted
  case anonFunction =>
    obtain ⟨owner, howner, rfl⟩ := List.mem_map.1 hreference
    rw [owner_machine, ← Option.mem_toList.1 howner]
    exact owner_anon_function h hlisted
  case handler =>
    obtain rfl := List.mem_singleton.1 hreference
    exact owner_handler h hlisted
  case property =>
    obtain rfl := List.mem_singleton.1 hreference
    exact owner_property h hlisted
  all_goals cases hreference

/-- References that lead somewhere in a program still do in its implemented part. -/
theorem closed_restrict (h : program.Ordered) (hclosed : program.Closed)
    (hjoins : program.JoinsWithin) :
    (program.restrict fun reference => !program.isSpecOwned reference).Closed := by
  intro kind entry hentry reference hreference
  rw [table_restrict, List.mem_filter] at hentry
  obtain ⟨hmem, hkept⟩ := hentry
  refine holds_restrict.2 ⟨hclosed kind entry hmem reference hreference, ?_⟩
  unfold isSpecOwned at hkept ⊢
  rw [owner_of_reference h hclosed hjoins hmem hreference] at hkept
  exact hkept

/-- What is left of a program that was built are the declarations that no specification machine
owns, unchanged and in order, under the same counter; and if every reference of the program led
somewhere and every transition stayed within a machine, the references of what is left lead
somewhere. -/
theorem implementation_is_exact (h : program.Built) :
    program.implementation =
        program.restrict (fun reference => !program.isSpecOwned reference) ∧
      (program.Closed → program.JoinsWithin → program.implementation.Closed) := by
  have hexact := implementation_eq_of_ordered h.ordered
  refine ⟨hexact, fun hclosed hjoins => ?_⟩
  rw [hexact]
  exact closed_restrict h.ordered hclosed hjoins

/-- A machine and a specification machine with a state each, and two properties, the second of them
of the first one. Only the first machine and its state are left. -/
theorem implementation_is_exact_with_watcher :
    let watched : Program :=
      (((((Program.empty.add (.machine ⟨"Main", .real, none, .unknown⟩)).add
        (.machine ⟨"Watch", .spec, none, .unknown⟩)).add
        (.state ⟨["Run"], 0, none, none, .unknown⟩)).add
        (.state ⟨["Idle"], 1, none, none, .unknown⟩)).add
        (.property ⟨⟨.state, 3⟩, "hot", .nil, .unknown⟩)).add
        (.property ⟨⟨.property, 4⟩, "since", .nil, .unknown⟩)
    watched.Built ∧ watched.Closed ∧ watched.JoinsWithin ∧
      watched.implementation =
        watched.restrict (fun reference => !watched.isSpecOwned reference) ∧
      watched.implementation.Closed ∧
      watched.implementation.idsOf .machine = [0] ∧
      watched.implementation.idsOf .state = [2] ∧
      watched.implementation.idsOf .property = [] := by
  intro watched
  have hbuilt : watched.Built :=
    .add (.add (.add (.add (.add (.add .empty (by decide)) (by decide)) (by decide)) (by decide))
      (by decide)) (by decide)
  have hclosed : watched.Closed := by
    intro kind
    cases kind <;> decide
  have hjoins : watched.JoinsWithin := fun entry hentry => by cases hentry
  obtain ⟨hexact, hleft⟩ := implementation_is_exact hbuilt
  exact ⟨hbuilt, hclosed, hjoins, hexact, hleft hclosed hjoins, rfl, rfl, by decide +kernel⟩

end MachineCompiler.Source.Program
