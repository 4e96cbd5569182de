/-!
# Names of top-level declarations

Within each category a name may be declared once over all files of a compile. The registry knows
the names declared so far.
-/

namespace MachineCompiler.Source

/-- The categories of top-level declarations. -/
inductive Category where
  | event
  | eventSet
  | interface
  | module
  | machine
  | test
  | typeDef
  | enumeration
deriving DecidableEq, Repr, Inhabited

namespace Category

/-- All categories. -/
def all : List Category :=
  [.event, .eventSet, .interface, .module, .machine, .test, .typeDef, .enumeration]

/-- The name of a category. -/
def name : Category → String
  | .event => "event"
  | .eventSet => "event_set"
  | .interface => "interface"
  | .module => "module"
  | .machine => "machine"
  | .test => "test"
  | .typeDef => "type_def"
  | .enumeration => "enum"

end Category

/-- The names declared so far, each in its category. -/
structure Registry where
  entries : List (Category × String)
deriving Inhabited

namespace Registry

/-- No names. -/
def empty : Registry := ⟨[]⟩

/-- The name is declared in the category. -/
def contains (registry : Registry) (category : Category) (name : String) : Bool :=
  registry.entries.contains (category, name)

/-- Declare a name, and tell whether it is new to its category. -/
def insert (registry : Registry) (category : Category) (name : String) : Registry × Bool :=
  if registry.contains category name then (registry, false)
  else (⟨registry.entries ++ [(category, name)]⟩, true)

/-- The number of names in a category. -/
def count (registry : Registry) (category : Category) : Nat :=
  registry.entries.countP (·.1 == category)

/-- No category has a name. -/
def isEmpty (registry : Registry) : Bool :=
  registry.entries.isEmpty

end Registry

end MachineCompiler.Source
