import MachineCompiler.Source.Declaration

/-!
# Source programs

All declarations of one compile, one table for each kind. A table keeps the order in which its
declarations were added. Identifiers come from one counter for all kinds, so a declaration keeps
its identifier when others are dropped.
-/

namespace MachineCompiler.Source

/-- Declarations of one kind under their identifiers, in the order they were added. -/
abbrev Table (α : Type) := List (DeclarationId × α)

namespace Table

variable {α : Type}

/-- The declaration under an identifier. -/
def get? (table : Table α) (id : DeclarationId) : Option α :=
  (table.find? (·.1 == id)).map Prod.snd

/-- The table without the declaration under an identifier; the others keep their order. -/
def erase (table : Table α) (id : DeclarationId) : Table α :=
  List.filter (·.1 != id) table

/-- The identifiers of a table, in order. -/
def ids (table : Table α) : List DeclarationId :=
  List.map Prod.fst table

end Table

/-- The declarations of a program and the next free identifier. -/
structure Program where
  typeDefs : Table TypeDef
  enumTypeDefs : Table EnumTypeDef
  modelTypes : Table ModelType
  events : Table Event
  machines : Table Machine
  states : Table State
  machineVariables : Table Variable
  transitions : Table Transition
  functions : Table Function
  anonFunctions : Table AnonFunction
  handlers : Table Handler
  properties : Table Property
  nextId : DeclarationId

namespace Program

/-- The program without declarations, whose identifiers begin at `nextId`. -/
def emptyFrom (nextId : DeclarationId) : Program :=
  ⟨[], [], [], [], [], [], [], [], [], [], [], [], nextId⟩

/-- The program without declarations. -/
def empty : Program := emptyFrom 0

instance : Inhabited Program := ⟨empty⟩

/-- A program without declarations that goes on with this program's identifiers. -/
def emptyLike (program : Program) : Program :=
  emptyFrom program.nextId

/-- Add a named type. Like every addition, it takes the next free identifier. -/
def addTypeDef (program : Program) (declaration : TypeDef) : Program :=
  { program with
    typeDefs := program.typeDefs ++ [(program.nextId, declaration)]
    nextId := program.nextId + 1 }

/-- Add an enumeration. -/
def addEnumTypeDef (program : Program) (declaration : EnumTypeDef) : Program :=
  { program with
    enumTypeDefs := program.enumTypeDefs ++ [(program.nextId, declaration)]
    nextId := program.nextId + 1 }

/-- Add a type of the environment. -/
def addModelType (program : Program) (declaration : ModelType) : Program :=
  { program with
    modelTypes := program.modelTypes ++ [(program.nextId, declaration)]
    nextId := program.nextId + 1 }

/-- Add an event. -/
def addEvent (program : Program) (declaration : Event) : Program :=
  { program with
    events := program.events ++ [(program.nextId, declaration)]
    nextId := program.nextId + 1 }

/-- Add a machine. -/
def addMachine (program : Program) (declaration : Machine) : Program :=
  { program with
    machines := program.machines ++ [(program.nextId, declaration)]
    nextId := program.nextId + 1 }

/-- Add a state. -/
def addState (program : Program) (declaration : State) : Program :=
  { program with
    states := program.states ++ [(program.nextId, declaration)]
    nextId := program.nextId + 1 }

/-- Add a variable. -/
def addVariable (program : Program) (declaration : Variable) : Program :=
  { program with
    machineVariables := program.machineVariables ++ [(program.nextId, declaration)]
    nextId := program.nextId + 1 }

/-- Add a transition. -/
def addTransition (program : Program) (declaration : Transition) : Program :=
  { program with
    transitions := program.transitions ++ [(program.nextId, declaration)]
    nextId := program.nextId + 1 }

/-- Add a function. -/
def addFunction (program : Program) (declaration : Function) : Program :=
  { program with
    functions := program.functions ++ [(program.nextId, declaration)]
    nextId := program.nextId + 1 }

/-- Add a function without a name. -/
def addAnonFunction (program : Program) (declaration : AnonFunction) : Program :=
  { program with
    anonFunctions := program.anonFunctions ++ [(program.nextId, declaration)]
    nextId := program.nextId + 1 }

/-- Add a handler. -/
def addHandler (program : Program) (declaration : Handler) : Program :=
  { program with
    handlers := program.handlers ++ [(program.nextId, declaration)]
    nextId := program.nextId + 1 }

/-- Add a property. -/
def addProperty (program : Program) (declaration : Property) : Program :=
  { program with
    properties := program.properties ++ [(program.nextId, declaration)]
    nextId := program.nextId + 1 }

/-- The identifiers of the declarations of one kind, in order. -/
def idsOf (program : Program) : Kind → List DeclarationId
  | .typeDef => program.typeDefs.ids
  | .enumTypeDef => program.enumTypeDefs.ids
  | .modelType => program.modelTypes.ids
  | .event => program.events.ids
  | .machine => program.machines.ids
  | .state => program.states.ids
  | .variable => program.machineVariables.ids
  | .transition => program.transitions.ids
  | .function => program.functions.ids
  | .anonFunction => program.anonFunctions.ids
  | .handler => program.handlers.ids
  | .property => program.properties.ids

/-- The reference leads to a declaration of the program. -/
def holds (program : Program) (reference : Reference) : Bool :=
  (program.idsOf reference.kind).contains reference.id

/-- The program without the declaration that a reference leads to. -/
def remove (program : Program) (reference : Reference) : Program :=
  match reference.kind with
  | .typeDef => { program with typeDefs := program.typeDefs.erase reference.id }
  | .enumTypeDef => { program with enumTypeDefs := program.enumTypeDefs.erase reference.id }
  | .modelType => { program with modelTypes := program.modelTypes.erase reference.id }
  | .event => { program with events := program.events.erase reference.id }
  | .machine => { program with machines := program.machines.erase reference.id }
  | .state => { program with states := program.states.erase reference.id }
  | .variable => { program with machineVariables := program.machineVariables.erase reference.id }
  | .transition => { program with transitions := program.transitions.erase reference.id }
  | .function => { program with functions := program.functions.erase reference.id }
  | .anonFunction => { program with anonFunctions := program.anonFunctions.erase reference.id }
  | .handler => { program with handlers := program.handlers.erase reference.id }
  | .property => { program with properties := program.properties.erase reference.id }

/-- The kinds of declarations in the order in which programs are written down. -/
def kinds : List Kind :=
  [.typeDef, .enumTypeDef, .modelType, .event, .machine, .state, .variable, .transition, .function,
    .anonFunction, .handler, .property]

/-- The number of declarations of all kinds. -/
def size (program : Program) : Nat :=
  (kinds.map fun kind => (program.idsOf kind).length).foldl (· + ·) 0

/-- The first machine of a name. -/
def machineNamed? (program : Program) (name : String) : Option (DeclarationId × Machine) :=
  program.machines.find? (·.2.name == name)

/-- The machine that owns a declaration: a machine owns itself, states, variables and functions
name their owner, transitions and handlers belong to the owner of the state they start from, and a
property belongs to the owner of its target. Top-level declarations and functions of the
whole program have no owner, and neither has a declaration that is absent or refers to an absent
one. A property is younger than its target, so chains of properties end. -/
def owner? (program : Program) (reference : Reference) : Option DeclarationId :=
  match reference with
  | ⟨.machine, id⟩ => some id
  | ⟨.state, id⟩ => (program.states.get? id).map State.owner
  | ⟨.variable, id⟩ => (program.machineVariables.get? id).map Variable.owner
  | ⟨.function, id⟩ => (program.functions.get? id).bind Function.owner
  | ⟨.anonFunction, id⟩ => (program.anonFunctions.get? id).bind AnonFunction.owner
  | ⟨.transition, id⟩ =>
    (program.transitions.get? id).bind fun transition =>
      (program.states.get? transition.source).map State.owner
  | ⟨.handler, id⟩ =>
    (program.handlers.get? id).bind fun handler =>
      (program.states.get? handler.source).map State.owner
  | ⟨.property, id⟩ =>
    match program.properties.get? id with
    | none => none
    | some property =>
      if property.target.id < id then program.owner? property.target else none
  | ⟨_, _⟩ => none
termination_by reference.id

end Program

end MachineCompiler.Source
