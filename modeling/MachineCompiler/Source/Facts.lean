import MachineCompiler.Engine.Model
import MachineCompiler.Source.Alias

/-!
# The model of a program

A program is handed to the engine as a model with one fact for each declaration. The facts of
machines, events, variables, functions and states are bound to their aliases, and every other fact
refers to them by alias. A reference to a declaration without an alias, and an absent value, are
written `NIL`.
-/

namespace MachineCompiler.Source.Program

open Engine

/-- The term for a value that may be absent. -/
def optional (term : Option Term) : Term :=
  term.getD Term.nil

/-- The aliases of a program, as a function from declarations. -/
abbrev Naming := Reference → Option String

/-- The term that refers to a declaration. -/
def referTo (naming : Naming) (reference : Reference) : Term :=
  ((naming reference).map Term.symbol).getD Term.nil

/-- The term that refers to a machine that may be absent. -/
def referToOwner (naming : Naming) (owner : Option DeclarationId) : Term :=
  (owner.map fun id => referTo naming ⟨.machine, id⟩).getD Term.nil

/-- The fact for a declaration that has an alias. -/
def bind (naming : Naming) (reference : Reference) (term : Term) : Fact :=
  ⟨naming reference, term⟩

/-- The term for a named type. -/
def typeDefTerm (declaration : TypeDef) : Term :=
  .app "TypeDef" [.text declaration.name, declaration.type] declaration.span

/-- The term for an enumeration: its names and its numbers as two lists. -/
def enumTypeDefTerm (declaration : EnumTypeDef) : Term :=
  let names := declaration.elements.map fun element => Term.text element.1
  let numbers := declaration.elements.map fun element => (element.2.map Term.number).getD Term.nil
  .app "EnumTypeDef"
    [.text declaration.name, .apply "StringList" names, .apply "IntegerList" numbers]
    declaration.span

/-- The term for a type of the environment. -/
def modelTypeTerm (declaration : ModelType) : Term :=
  .app "ModelType" [.text declaration.name] declaration.span

/-- The term for an event. -/
def eventTerm (declaration : Event) : Term :=
  .app "EventDecl"
    [.text declaration.name, optional declaration.bound, optional declaration.payload]
    declaration.span

/-- The term for a machine. -/
def machineTerm (declaration : Machine) : Term :=
  .app "MachineDecl"
    [.text declaration.name, .symbol declaration.role.constant, optional declaration.bound]
    declaration.span

/-- The term for a variable. -/
def variableTerm (naming : Naming) (declaration : Variable) : Term :=
  .app "VarDecl"
    [.text declaration.name, referTo naming ⟨.machine, declaration.owner⟩, declaration.type]
    declaration.span

/-- The term for a function. -/
def functionTerm (naming : Naming) (declaration : Function) : Term :=
  let parameters := declaration.parameters.map fun parameter =>
    Term.apply "Param" [.text parameter.1, parameter.2]
  .app "FunDecl"
    [.text declaration.name, referToOwner naming declaration.owner, .apply "Params" parameters,
      optional declaration.result, declaration.body]
    declaration.span

/-- The term for a function without a name. -/
def anonFunctionTerm (naming : Naming) (declaration : AnonFunction) : Term :=
  .app "AnonFunDecl" [referToOwner naming declaration.owner, declaration.body] declaration.span

/-- The term for a state. -/
def stateTerm (naming : Naming) (declaration : State) : Term :=
  .app "StateDecl"
    [.apply "QualifiedName" (declaration.name.map Term.text),
      referTo naming ⟨.machine, declaration.owner⟩, optional declaration.entry,
      optional declaration.exit]
    declaration.span

/-- The term for a transition. -/
def transitionTerm (naming : Naming) (declaration : Transition) : Term :=
  .app "TransDecl"
    [referTo naming ⟨.state, declaration.source⟩, .text declaration.trigger,
      referTo naming ⟨.state, declaration.target⟩, optional declaration.action]
    declaration.span

/-- The term for a handler. -/
def handlerTerm (naming : Naming) (declaration : Handler) : Term :=
  .app "DoDecl"
    [referTo naming ⟨.state, declaration.source⟩, .text declaration.trigger, declaration.action]
    declaration.span

/-- The term for a property. -/
def propertyTerm (naming : Naming) (declaration : Property) : Term :=
  .app "Annotation"
    [referTo naming declaration.target, .text declaration.key, declaration.value]
    declaration.span

/-- The facts of a program under given aliases: one for each declaration, kind by kind and in the
order of declaration. -/
def factsUnder (naming : Naming) (program : Program) : List Fact :=
  program.typeDefs.map (fun entry => ⟨none, typeDefTerm entry.2⟩)
    ++ program.enumTypeDefs.map (fun entry => ⟨none, enumTypeDefTerm entry.2⟩)
    ++ program.modelTypes.map (fun entry => ⟨none, modelTypeTerm entry.2⟩)
    ++ program.events.map (fun entry => bind naming ⟨.event, entry.1⟩ (eventTerm entry.2))
    ++ program.machines.map (fun entry => bind naming ⟨.machine, entry.1⟩ (machineTerm entry.2))
    ++ program.machineVariables.map (fun entry =>
      bind naming ⟨.variable, entry.1⟩ (variableTerm naming entry.2))
    ++ program.functions.map (fun entry =>
      bind naming ⟨.function, entry.1⟩ (functionTerm naming entry.2))
    ++ program.anonFunctions.map (fun entry =>
      bind naming ⟨.anonFunction, entry.1⟩ (anonFunctionTerm naming entry.2))
    ++ program.states.map (fun entry => bind naming ⟨.state, entry.1⟩ (stateTerm naming entry.2))
    ++ program.transitions.map (fun entry => ⟨none, transitionTerm naming entry.2⟩)
    ++ program.handlers.map (fun entry => ⟨none, handlerTerm naming entry.2⟩)
    ++ program.properties.map (fun entry => ⟨none, propertyTerm naming entry.2⟩)

/-- The facts of a program. -/
def facts (program : Program) : List Fact :=
  let aliases := program.aliases
  program.factsUnder fun reference => aliases.lookup reference

/-- The model of a program. -/
def toModel (program : Program) (name : String) (domain : ModuleRef) : Model :=
  ⟨name, domain, program.facts⟩

end MachineCompiler.Source.Program
