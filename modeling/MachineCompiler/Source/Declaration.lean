import MachineCompiler.Term

/-!
# Declarations

What a source file declares. Declarations refer to one another by identifiers, which are unique
over all kinds of declarations of one program.
-/

namespace MachineCompiler.Source

/-- The identifier of a declaration. -/
abbrev DeclarationId := Nat

/-- The kinds of declarations. -/
inductive Kind where
  | typeDef
  | enumTypeDef
  | modelType
  | event
  | machine
  | state
  | variable
  | transition
  | function
  | anonFunction
  | handler
  | property
deriving DecidableEq, Repr, Inhabited

/-- The name of a kind. -/
def Kind.name : Kind → String
  | .typeDef => "type_def"
  | .enumTypeDef => "enum_type_def"
  | .modelType => "model_type"
  | .event => "event"
  | .machine => "machine"
  | .state => "state"
  | .variable => "variable"
  | .transition => "transition"
  | .function => "function"
  | .anonFunction => "anon_function"
  | .handler => "do"
  | .property => "annotation"

/-- A reference to a declaration of any kind. -/
structure Reference where
  kind : Kind
  id : DeclarationId
deriving DecidableEq, Repr, Inhabited

/-- The part that a machine plays: it is implemented, it stands in for a component of the
environment, or it observes the others and matters to verification only. -/
inductive MachineRole where
  | real
  | model
  | spec
deriving DecidableEq, Repr

/-- The constant that stands for a role in a model. -/
def MachineRole.constant : MachineRole → String
  | .real => "REAL"
  | .model => "MODEL"
  | .spec => "SPEC"

/-- A named type. -/
structure TypeDef where
  name : String
  type : Term
  span : Span

/-- A type of named constants, some of them with a number. -/
structure EnumTypeDef where
  name : String
  elements : List (String × Option Int)
  span : Span

/-- A type that only the environment knows. -/
structure ModelType where
  name : String
  span : Span

/-- An event, with an optional bound on its queued instances and an optional payload type. -/
structure Event where
  name : String
  bound : Option Term
  payload : Option Term
  span : Span

/-- A state machine, with an optional bound on its instances. -/
structure Machine where
  name : String
  role : MachineRole
  bound : Option Term
  span : Span

/-- A machine that only observes. -/
def Machine.isSpec (machine : Machine) : Bool :=
  machine.role == .spec

/-- A state of a machine; its name runs from the outermost group inwards. -/
structure State where
  name : List String
  owner : DeclarationId
  entry : Option Term
  exit : Option Term
  span : Span

/-- A variable of a machine. -/
structure Variable where
  name : String
  owner : DeclarationId
  type : Term
  span : Span

/-- A move from one state to another when an event arrives. -/
structure Transition where
  source : DeclarationId
  trigger : String
  target : DeclarationId
  action : Option Term
  span : Span

/-- A function, of a machine or of the whole program. -/
structure Function where
  name : String
  owner : Option DeclarationId
  parameters : List (String × Term)
  result : Option Term
  body : Term
  span : Span

/-- A function without a name. -/
structure AnonFunction where
  owner : Option DeclarationId
  body : Term
  span : Span

/-- An action that a state runs when an event arrives. -/
structure Handler where
  source : DeclarationId
  trigger : String
  action : Term
  span : Span

/-- A property attached to another declaration: a key with a value that annotates the target. -/
structure Property where
  target : Reference
  key : String
  value : Term
  span : Span

end MachineCompiler.Source
