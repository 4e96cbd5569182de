import MachineCompiler.Source.Program

/-!
# The implemented part of a program

Specification machines only matter to verification. The implemented part of a program is what is
left without them and everything they own.
-/

namespace MachineCompiler.Source.Program

/-- The identifiers of the specification machines. -/
def specMachines (program : Program) : List DeclarationId :=
  (program.machines.filter (·.2.isSpec)).map Prod.fst

/-- The identifiers of the states of the given machines. -/
def statesOf (program : Program) (machines : List DeclarationId) : List DeclarationId :=
  (program.states.filter fun entry => machines.contains entry.2.owner).map Prod.fst

/-- One of the given machines owns the declaration. -/
def ownedByOneOf (program : Program) (machines : List DeclarationId) (reference : Reference) :
    Bool :=
  (program.owner? reference).any machines.contains

/-- The program without its specification machines and what they own: states, variables and
functions by their owner, transitions and handlers by the state they start from, and properties
by their target. What is left keeps its identifiers and its order. -/
def implementation (program : Program) : Program :=
  let specs := program.specMachines
  if specs.isEmpty then program
  else
    let specStates := program.statesOf specs
    { program.emptyLike with
      typeDefs := program.typeDefs
      enumTypeDefs := program.enumTypeDefs
      modelTypes := program.modelTypes
      events := program.events
      machines := program.machines.filter fun entry => !specs.contains entry.1
      states := program.states.filter fun entry => !specStates.contains entry.1
      machineVariables :=
        program.machineVariables.filter fun entry => !specs.contains entry.2.owner
      transitions :=
        program.transitions.filter fun entry => !specStates.contains entry.2.source
      functions := program.functions.filter fun entry => !entry.2.owner.any specs.contains
      anonFunctions :=
        program.anonFunctions.filter fun entry => !entry.2.owner.any specs.contains
      handlers := program.handlers.filter fun entry => !specStates.contains entry.2.source
      properties := program.properties.filter fun entry =>
        !program.ownedByOneOf specs entry.2.target }

end MachineCompiler.Source.Program
