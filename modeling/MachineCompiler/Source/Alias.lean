import MachineCompiler.Source.Program

/-!
# Aliases

The model of a program calls declarations by aliases. An alias is made of the kind of a
declaration, its owner and its name. Programs may declare a name twice, and that is reported
elsewhere; the aliases have to be distinct all the same, so repeated ones are numbered.
-/

namespace MachineCompiler.Source

/-- The aliases handed out so far, and for each base how many candidates were used up. -/
structure AliasSupply where
  used : List (String × Nat)
  assigned : List String

namespace AliasSupply

/-- Nothing handed out. -/
def empty : AliasSupply := ⟨[], []⟩

instance : Inhabited AliasSupply := ⟨empty⟩

/-- The candidates for a base: the base itself, then the base with a number. -/
def candidate (base : String) : Nat → String
  | 0 => base
  | count => base ++ "_" ++ toString count

/-- The number of candidates of a base that were used up. -/
def usedOf (supply : AliasSupply) (base : String) : Nat :=
  (supply.used.lookup base).getD 0

/-- The index of the first candidate, from `count` on, that is not in `taken`. -/
def firstFree (base : String) (count : Nat) (taken : List String) : Nat :=
  if _h : candidate base count ∈ taken then
    firstFree base (count + 1) (taken.erase (candidate base count))
  else count
termination_by taken.length
decreasing_by
  rw [List.length_erase_of_mem _h]
  have := List.length_pos_of_mem _h
  omega

/-- Hand out an alias: the first candidate of the base that is not used up or assigned. -/
def allocate (supply : AliasSupply) (base : String) : String × AliasSupply :=
  let index := firstFree base (supply.usedOf base) supply.assigned
  let chosen := candidate base index
  (chosen, ⟨(base, index + 1) :: supply.used.filter (·.1 != base), chosen :: supply.assigned⟩)

/-- Hand out an alias for each reference, in order. -/
def allocateAll (supply : AliasSupply) :
    List (Reference × String) → List (Reference × String) × AliasSupply
  | [] => ([], supply)
  | (reference, base) :: rest =>
    let (chosen, supply) := supply.allocate base
    let (aliases, supply) := allocateAll supply rest
    ((reference, chosen) :: aliases, supply)

end AliasSupply

namespace Program

/-- The name of a machine; empty if there is none under the identifier. -/
def machineName (program : Program) (id : DeclarationId) : String :=
  ((program.machines.get? id).map Machine.name).getD ""

/-- The base of a machine's alias. -/
def machineBase (machine : Machine) : String :=
  "machdecl__" ++ machine.name

/-- The base of an event's alias. -/
def eventBase (event : Event) : String :=
  "evdecl__" ++ event.name

/-- The base of a variable's alias. -/
def variableBase (program : Program) (declared : Variable) : String :=
  "vardecl__" ++ program.machineName declared.owner ++ "__" ++ declared.name

/-- The base of a function's alias. -/
def functionBase (program : Program) (function : Function) : String :=
  match function.owner with
  | some owner => "fundecl__" ++ program.machineName owner ++ "__" ++ function.name
  | none => "fundecl__" ++ function.name

/-- The base of the alias of every function without a name. -/
def anonFunctionBase : String := "afundecl__"

/-- The base of a state's alias. -/
def stateBase (program : Program) (state : State) : String :=
  "statedecl__" ++ program.machineName state.owner ++ "__" ++ String.intercalate "_" state.name

/-- The declarations that get an alias, each with the base of it, in the order in which aliases are
handed out. -/
def aliasBases (program : Program) : List (Reference × String) :=
  program.machines.map (fun entry => (⟨.machine, entry.1⟩, machineBase entry.2))
    ++ program.events.map (fun entry => (⟨.event, entry.1⟩, eventBase entry.2))
    ++ program.machineVariables.map (fun entry =>
      (⟨.variable, entry.1⟩, program.variableBase entry.2))
    ++ program.functions.map (fun entry => (⟨.function, entry.1⟩, program.functionBase entry.2))
    ++ program.anonFunctions.map (fun entry => (⟨.anonFunction, entry.1⟩, anonFunctionBase))
    ++ program.states.map (fun entry => (⟨.state, entry.1⟩, program.stateBase entry.2))

/-- The aliases of a program, in the order in which they are handed out. -/
def aliases (program : Program) : List (Reference × String) :=
  (AliasSupply.empty.allocateAll program.aliasBases).1

/-- The alias of a declaration. -/
def alias? (program : Program) (reference : Reference) : Option String :=
  program.aliases.lookup reference

end Program

end MachineCompiler.Source
