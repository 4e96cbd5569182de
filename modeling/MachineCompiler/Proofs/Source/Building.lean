import MachineCompiler.Source.Program

/-!
# How programs are built

Programs are built by adding declarations that refer to earlier ones, and by removing declarations.
To say things once for all kinds, the declarations of every kind are seen as declarations of one
type. What holds of all programs built this way is that identifiers are unique and below the
counter, and that references go back to smaller identifiers. References need not lead anywhere.
-/

namespace MachineCompiler.Source

/-! ## Tables -/

namespace Table

variable {α : Type} {table : Table α} {id : DeclarationId} {declaration : α}

theorem mem_of_get (h : table.get? id = some declaration) : (id, declaration) ∈ table := by
  obtain ⟨⟨found, _⟩, hfind, rfl⟩ := Option.map_eq_some_iff.1 h
  have hid := List.find?_some hfind
  obtain rfl : found = id := eq_of_beq hid
  exact List.mem_of_find?_eq_some hfind

/-- In a table without repetitions, what is listed under an identifier is found there. -/
theorem get_of_mem (hnodup : table.ids.Nodup) (h : (id, declaration) ∈ table) :
    table.get? id = some declaration := by
  induction table with
  | nil => cases h
  | cons entry rest ih =>
    obtain ⟨hnew, hrest⟩ := List.nodup_cons.1 hnodup
    unfold get?
    rw [List.find?_cons]
    rcases List.mem_cons.1 h with rfl | hmem
    · simp
    · have hne : entry.1 ≠ id := fun heq => hnew (List.mem_map.2 ⟨_, hmem, heq.symm⟩)
      rw [beq_eq_false_iff_ne.2 hne]
      exact ih hrest hmem

/-- The identifiers of the declarations that pass a test are those under which one is found that
passes. -/
theorem contains_ids_filter (hnodup : table.ids.Nodup) (test : α → Bool) :
    (ids (table.filter fun entry => test entry.2)).contains id = (table.get? id).any test := by
  rw [Bool.eq_iff_iff, List.contains_iff_mem, Option.any_eq_true, ids, List.mem_map]
  constructor
  · rintro ⟨⟨_, found⟩, hfiltered, rfl⟩
    obtain ⟨hmem, htest⟩ := List.mem_filter.1 hfiltered
    exact ⟨found, get_of_mem hnodup hmem, htest⟩
  · rintro ⟨found, hget, htest⟩
    exact ⟨(id, found), List.mem_filter.2 ⟨mem_of_get hget, htest⟩, rfl⟩

end Table

/-! ## Declarations of all kinds -/

/-- A declaration of any kind. -/
inductive Declaration where
  | typeDef (declaration : TypeDef)
  | enumTypeDef (declaration : EnumTypeDef)
  | modelType (declaration : ModelType)
  | event (declaration : Event)
  | machine (declaration : Machine)
  | state (declaration : State)
  | variable (declaration : Variable)
  | transition (declaration : Transition)
  | function (declaration : Function)
  | anonFunction (declaration : AnonFunction)
  | handler (declaration : Handler)
  | property (declaration : Property)

namespace Declaration

/-- The kind of a declaration. -/
def kind : Declaration → Kind
  | .typeDef _ => .typeDef
  | .enumTypeDef _ => .enumTypeDef
  | .modelType _ => .modelType
  | .event _ => .event
  | .machine _ => .machine
  | .state _ => .state
  | .variable _ => .variable
  | .transition _ => .transition
  | .function _ => .function
  | .anonFunction _ => .anonFunction
  | .handler _ => .handler
  | .property _ => .property

/-- What a declaration refers to. -/
def references : Declaration → List Reference
  | .typeDef _ | .enumTypeDef _ | .modelType _ | .event _ | .machine _ => []
  | .state declaration | .variable declaration => [⟨.machine, declaration.owner⟩]
  | .transition declaration => [⟨.state, declaration.source⟩, ⟨.state, declaration.target⟩]
  | .function declaration | .anonFunction declaration =>
    declaration.owner.toList.map (⟨.machine, ·⟩)
  | .handler declaration => [⟨.state, declaration.source⟩]
  | .property declaration => [declaration.target]

end Declaration

namespace Program

/-- Add a declaration of any kind. -/
def add (program : Program) : Declaration → Program
  | .typeDef declaration => program.addTypeDef declaration
  | .enumTypeDef declaration => program.addEnumTypeDef declaration
  | .modelType declaration => program.addModelType declaration
  | .event declaration => program.addEvent declaration
  | .machine declaration => program.addMachine declaration
  | .state declaration => program.addState declaration
  | .variable declaration => program.addVariable declaration
  | .transition declaration => program.addTransition declaration
  | .function declaration => program.addFunction declaration
  | .anonFunction declaration => program.addAnonFunction declaration
  | .handler declaration => program.addHandler declaration
  | .property declaration => program.addProperty declaration

/-- The declarations of one kind. -/
def table (program : Program) : Kind → Table Declaration
  | .typeDef => program.typeDefs.map (Prod.map id .typeDef)
  | .enumTypeDef => program.enumTypeDefs.map (Prod.map id .enumTypeDef)
  | .modelType => program.modelTypes.map (Prod.map id .modelType)
  | .event => program.events.map (Prod.map id .event)
  | .machine => program.machines.map (Prod.map id .machine)
  | .state => program.states.map (Prod.map id .state)
  | .variable => program.machineVariables.map (Prod.map id .variable)
  | .transition => program.transitions.map (Prod.map id .transition)
  | .function => program.functions.map (Prod.map id .function)
  | .anonFunction => program.anonFunctions.map (Prod.map id .anonFunction)
  | .handler => program.handlers.map (Prod.map id .handler)
  | .property => program.properties.map (Prod.map id .property)

/-- The declarations that are kept, in the same order, under the same counter. -/
def restrict (program : Program) (keep : Reference → Bool) : Program where
  typeDefs := program.typeDefs.filter fun entry => keep ⟨.typeDef, entry.1⟩
  enumTypeDefs := program.enumTypeDefs.filter fun entry => keep ⟨.enumTypeDef, entry.1⟩
  modelTypes := program.modelTypes.filter fun entry => keep ⟨.modelType, entry.1⟩
  events := program.events.filter fun entry => keep ⟨.event, entry.1⟩
  machines := program.machines.filter fun entry => keep ⟨.machine, entry.1⟩
  states := program.states.filter fun entry => keep ⟨.state, entry.1⟩
  machineVariables := program.machineVariables.filter fun entry => keep ⟨.variable, entry.1⟩
  transitions := program.transitions.filter fun entry => keep ⟨.transition, entry.1⟩
  functions := program.functions.filter fun entry => keep ⟨.function, entry.1⟩
  anonFunctions := program.anonFunctions.filter fun entry => keep ⟨.anonFunction, entry.1⟩
  handlers := program.handlers.filter fun entry => keep ⟨.handler, entry.1⟩
  properties := program.properties.filter fun entry => keep ⟨.property, entry.1⟩
  nextId := program.nextId

/-- The programs built from nothing: a declaration is added with references to earlier identifiers,
and any declaration may be removed, whether others refer to it or not. -/
inductive Built : Program → Prop where
  | empty : Built .empty
  | add {program : Program} {declaration : Declaration} (hbuilt : Built program)
      (hearlier : ∀ reference ∈ declaration.references, reference.id < program.nextId) :
      Built (program.add declaration)
  | remove {program : Program} {reference : Reference} (hbuilt : Built program) :
      Built (program.remove reference)

variable {program : Program} {declaration : Declaration} {kind : Kind} {id : DeclarationId}
  {reference : Reference}

theorem ids_of_eq : program.idsOf kind = (program.table kind).ids := by
  cases kind <;> simp [idsOf, table, Table.ids, Function.comp_def]

theorem nodup_ids_of (h : ∀ kind, (program.table kind).ids.Nodup) (kind : Kind) :
    (program.idsOf kind).Nodup :=
  ids_of_eq ▸ h kind

/-- A program holds what its tables list. -/
theorem holds_iff :
    program.holds reference = true ↔
      ∃ declaration, (reference.id, declaration) ∈ program.table reference.kind := by
  simp [holds, ids_of_eq, Table.ids]

theorem kind_of_mem (h : (id, declaration) ∈ program.table kind) : declaration.kind = kind := by
  cases kind <;> obtain ⟨entry, _, heq⟩ := List.mem_map.1 h <;> cases heq <;> rfl

theorem table_add :
    (program.add declaration).table kind =
      program.table kind ++
        if declaration.kind = kind then [(program.nextId, declaration)] else [] := by
  cases declaration <;> cases kind <;>
    first
      | exact (List.append_nil _).symm
      | exact List.map_append

theorem next_id_add : (program.add declaration).nextId = program.nextId + 1 := by
  cases declaration <;> rfl

theorem table_restrict {keep : Reference → Bool} :
    (program.restrict keep).table kind =
      (program.table kind).filter fun entry => keep ⟨kind, entry.1⟩ := by
  cases kind <;> simp [table, restrict, List.filter_map, Function.comp_def]

/-- Keeping everything keeps the program as it is. -/
theorem restrict_eq_self {keep : Reference → Bool} (h : ∀ reference, keep reference = true) :
    program.restrict keep = program := by
  have hall {α : Type} (table : Table α) (kind : Kind) :
      (table.filter fun entry => keep ⟨kind, entry.1⟩) = table :=
    List.filter_eq_self.2 fun entry _ => h _
  simp only [restrict, hall]

theorem holds_restrict {keep : Reference → Bool} :
    (program.restrict keep).holds reference = true ↔
      program.holds reference = true ∧ keep reference = true := by
  simp only [holds_iff, table_restrict, List.mem_filter, exists_and_right]

/-- Removing a declaration keeps all others. -/
theorem remove_eq_restrict : program.remove reference = program.restrict (· != reference) := by
  have hother {α : Type} (table : Table α) {kind : Kind} (h : kind ≠ reference.kind) :
      (table.filter fun entry => (⟨kind, entry.1⟩ : Reference) != reference) = table :=
    List.filter_eq_self.2 fun entry _ => bne_iff_ne.2 fun heq => h (congrArg Reference.kind heq)
  have hsame {α : Type} (table : Table α) :
      (table.filter fun entry => (⟨reference.kind, entry.1⟩ : Reference) != reference) =
        table.erase reference.id :=
    List.filter_congr fun entry _ => by
      obtain ⟨kind, id⟩ := reference
      simp [bne, Bool.beq_eq_decide_eq]
  obtain ⟨kind, id⟩ := reference
  cases kind <;> simp [remove, restrict, hother, hsame]

/-! ## What holds of built programs -/

/-- Identifiers are unique in each table and below the counter, and references go back. -/
structure Ordered (program : Program) : Prop where
  nodup : ∀ kind, (program.table kind).ids.Nodup
  fresh : ∀ kind, ∀ entry ∈ program.table kind, entry.1 < program.nextId
  earlier : ∀ kind, ∀ entry ∈ program.table kind,
    ∀ reference ∈ entry.2.references, reference.id < entry.1

theorem Ordered.nodup_ids (h : program.Ordered) (kind : Kind) : (program.idsOf kind).Nodup :=
  nodup_ids_of h.nodup kind

/-- Nothing that is kept was out of order. -/
theorem Ordered.restrict (h : program.Ordered) (keep : Reference → Bool) :
    (program.restrict keep).Ordered where
  nodup kind := by
    rw [table_restrict]
    exact (h.nodup kind).sublist (List.filter_sublist.map _)
  fresh kind entry hentry := by
    rw [table_restrict] at hentry
    exact h.fresh kind entry (List.mem_filter.1 hentry).1
  earlier kind entry hentry := by
    rw [table_restrict] at hentry
    exact h.earlier kind entry (List.mem_filter.1 hentry).1

theorem Ordered.add (h : program.Ordered)
    (hearlier : ∀ reference ∈ declaration.references, reference.id < program.nextId) :
    (program.add declaration).Ordered := by
  -- What is listed after the step was listed before or is the new declaration.
  have hmem (kind : Kind) (entry) (hentry : entry ∈ (program.add declaration).table kind) :
      entry ∈ program.table kind ∨ entry = (program.nextId, declaration) := by
    rw [table_add, List.mem_append] at hentry
    exact hentry.imp_right fun hnew => by
      split at hnew
      · exact List.mem_singleton.1 hnew
      · cases hnew
  refine ⟨fun kind => ?_, fun kind entry hentry => ?_, fun kind entry hentry => ?_⟩
  · rw [table_add]
    split
    · rw [Table.ids, List.map_append]
      refine List.nodup_append.2 ⟨h.nodup kind, by simp, ?_⟩
      rintro id hid _ hnew rfl
      obtain ⟨entry, hentry, rfl⟩ := List.mem_map.1 hid
      exact Nat.ne_of_lt (h.fresh kind entry hentry) (List.mem_singleton.1 hnew)
    · rw [List.append_nil]
      exact h.nodup kind
  · rw [next_id_add]
    obtain hold | rfl := hmem kind entry hentry
    · exact Nat.lt_succ_of_lt (h.fresh kind entry hold)
    · exact Nat.lt_succ_self _
  · obtain hold | rfl := hmem kind entry hentry
    · exact h.earlier kind entry hold
    · exact hearlier

theorem Built.ordered (h : program.Built) : program.Ordered := by
  induction h with
  | empty =>
    refine ⟨fun kind => ?_, fun kind => ?_, fun kind => ?_⟩ <;> cases kind <;>
      simp [Program.empty, emptyFrom, table, Table.ids]
  | add _ hearlier ih => exact ih.add hearlier
  | remove _ ih =>
    rw [remove_eq_restrict]
    exact ih.restrict _

end Program

end MachineCompiler.Source
