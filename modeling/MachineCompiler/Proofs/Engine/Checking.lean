import MachineCompiler.Engine.Sample
import MachineCompiler.Proofs.Source.Likeness

/-!
# What the sample check finds

The check of the sample rules sees a program as the facts of its model, where machines are known by
their aliases. It passes exactly when, in the program itself, every variable that a function uses is
declared for the machine of the function.
-/

namespace MachineCompiler.Source.Program

open Engine

variable {program : Program} {name : String} {domain : ModuleRef}

/-- The facts of a functor are those of the declarations of its kind. -/
theorem facts_of_kind (kind : Kind) :
    (program.toModel name domain).factsOf kind.functor =
      (program.table kind).map (factOf program.alias? kind) := by
  have hblock (other : Kind) :
      ((program.table other).map (factOf program.alias? other)).filter
          (fun fact => fact.term.functor? == some kind.functor) =
        if other = kind then (program.table kind).map (factOf program.alias? kind) else [] := by
    split
    · rename_i hkind
      subst hkind
      refine List.filter_eq_self.2 fun fact hfact => ?_
      obtain ⟨entry, hentry, rfl⟩ := List.mem_map.1 hfact
      simp [functor_fact_of hentry]
    · rename_i hkind
      refine List.filter_eq_nil_iff.2 fun fact hfact => ?_
      obtain ⟨entry, hentry, rfl⟩ := List.mem_map.1 hfact
      rw [functor_fact_of hentry]
      cases other <;> cases kind <;> first | exact absurd rfl hkind | simp [Kind.functor]
  have hfacts : program.facts = program.factsUnder program.alias? := rfl
  rw [Model.factsOf, toModel, hfacts, facts_under_eq, List.filter_flatMap]
  simp only [hblock]
  cases kind <;> simp [factOrder]

/-- Every machine that owns a variable or a function is a machine of the program. -/
structure OwnersHeld (program : Program) : Prop where
  machineVariables : ∀ entry ∈ program.machineVariables,
    program.holds ⟨.machine, entry.2.owner⟩ = true
  functions : ∀ entry ∈ program.functions, ∀ owner, entry.2.owner = some owner →
    program.holds ⟨.machine, owner⟩ = true

/-- The variable is declared for the machine. -/
def Declares (program : Program) (owner : DeclarationId) (variableName : String) : Prop :=
  ∃ entry ∈ program.machineVariables, entry.2.owner = owner ∧ entry.2.name = variableName

/-- The variables that a body uses, in order. -/
def usesOf (body : Term) : List String :=
  body.subterms.filterMap Sample.usedVariable?

/-- Every variable that a function uses is declared for the machine that owns the function. -/
def UsesDeclared (program : Program) : Prop :=
  ∀ entry ∈ program.functions, ∀ used ∈ usesOf entry.2.body,
    ∃ owner, entry.2.owner = some owner ∧ program.Declares owner used

/-- Machines of one printed form are the same machine. -/
theorem print_refer_injective {first second : DeclarationId}
    (hfirst : program.holds ⟨.machine, first⟩ = true)
    (hsecond : program.holds ⟨.machine, second⟩ = true)
    (h : (referTo program.alias? ⟨.machine, first⟩).print =
      (referTo program.alias? ⟨.machine, second⟩).print) : first = second := by
  obtain ⟨called, hcalled⟩ := alias_of_holds (by simp [aliasedKinds]) hfirst
  obtain ⟨called', hcalled'⟩ := alias_of_holds (by simp [aliasedKinds]) hsecond
  simp only [referTo, hcalled, hcalled', Option.map_some, Option.getD_some, Term.print] at h
  subst h
  exact congrArg Reference.id (alias_injective hcalled hcalled')

/-- A machine does not print like an absent one. -/
theorem print_refer_ne_nil {id : DeclarationId} (h : program.holds ⟨.machine, id⟩ = true) :
    (referTo program.alias? ⟨.machine, id⟩).print ≠ Term.nil.print := by
  obtain ⟨called, hcalled⟩ := alias_of_holds (by simp [aliasedKinds]) h
  simpa only [referTo, hcalled, Option.map_some, Option.getD_some, Term.print, Term.nil] using
    alias_ne_nil hcalled

/-- The variables that the check sees are those of the program, with the printed owners. -/
theorem declared_variables_eq :
    Sample.declaredVariables (program.toModel name domain) = program.machineVariables.map
      fun entry => ((referTo program.alias? ⟨.machine, entry.2.owner⟩).print, entry.2.name) := by
  rw [Sample.declaredVariables, show "VarDecl" = Kind.functor .variable from rfl, facts_of_kind,
    table, List.map_map, List.filterMap_map]
  exact congrFun List.filterMap_eq_map _

/-- The names of the functions, as they are read off the model, are those of the program. -/
theorem names_of_functions :
    Sample.namesOf (program.toModel name domain) "FunDecl" =
      program.functions.map fun entry => entry.2.name := by
  rw [Sample.namesOf, show "FunDecl" = Kind.functor .function from rfl, facts_of_kind, table,
    List.map_map, List.filterMap_map]
  exact congrFun List.filterMap_eq_map _

/-- The check looks up a variable by the printed owner of the function, and finds it exactly if it
is declared for the machine. -/
theorem mem_declared_variables (h : program.OwnersHeld) {owner : Option DeclarationId}
    (howner : ∀ id, owner = some id → program.holds ⟨.machine, id⟩ = true) {used : String} :
    ((referToOwner program.alias? owner).print, used) ∈
        Sample.declaredVariables (program.toModel name domain) ↔
      ∃ id, owner = some id ∧ program.Declares id used := by
  rw [declared_variables_eq, List.mem_map]
  constructor
  · rintro ⟨entry, hentry, heq⟩
    obtain ⟨hprint, rfl⟩ := Prod.mk.inj heq
    have hholds := h.machineVariables entry hentry
    cases owner with
    | none => exact absurd hprint (print_refer_ne_nil hholds)
    | some id =>
      exact ⟨id, rfl, entry, hentry, print_refer_injective hholds (howner id rfl) hprint, rfl⟩
  · rintro ⟨id, rfl, entry, hentry, rfl, rfl⟩
    exact ⟨entry, hentry, rfl⟩

/-- There is no proof about a function whose variables are all declared. -/
theorem unavailable_in_eq_nil {declared : List (String × String)} {entry : DeclarationId × Function}
    {naming : Naming} :
    Sample.unavailableIn declared (factOf naming .function (entry.1, .function entry.2)) = [] ↔
      ∀ used ∈ usesOf entry.2.body,
        ((referToOwner naming entry.2.owner).print, used) ∈ declared := by
  show List.filterMap _ entry.2.body.subterms = [] ↔ _
  simp only [List.filterMap_eq_nil_iff, usesOf, List.mem_filterMap]
  constructor
  · rintro hnone used ⟨term, hterm, hused⟩
    have hmissing := hnone term hterm
    rw [hused, Option.bind_some] at hmissing
    by_contra hnot
    rw [if_neg (by simpa using hnot)] at hmissing
    contradiction
  · intro hall term hterm
    cases hused : Sample.usedVariable? term with
    | none => rfl
    | some used =>
      rw [Option.bind_some, if_pos (by simpa using hall used ⟨term, hterm, hused⟩)]

/-- The check finds nothing about the functions exactly if every variable that one of them uses is
declared for its machine. -/
theorem unavailable_eq_nil (h : program.OwnersHeld) :
    ((program.toModel name domain).factsOf "FunDecl").flatMap
        (Sample.unavailableIn (Sample.declaredVariables (program.toModel name domain))) = [] ↔
      program.UsesDeclared := by
  rw [show "FunDecl" = Kind.functor .function from rfl, facts_of_kind, table, List.map_map,
    List.flatMap_map, List.flatMap_eq_nil_iff]
  refine forall₂_congr fun entry hentry => ?_
  refine Iff.trans unavailable_in_eq_nil (forall₂_congr fun used _ => ?_)
  exact mem_declared_variables h (h.functions entry hentry)

/-- A program passes the check when every variable that a function uses is declared for its
machine. -/
theorem check_passes (h : program.OwnersHeld) (hdeclared : program.UsesDeclared) :
    Sample.check (program.toModel name domain) = Verdict.pass := by
  simp only [Sample.check]
  rw [if_pos (List.isEmpty_iff.2 ((unavailable_eq_nil h).2 hdeclared))]

/-- A program fails the check when some function uses a variable that its machine does not have. -/
theorem check_fails (h : program.OwnersHeld) (hdeclared : ¬program.UsesDeclared) :
    (Sample.check (program.toModel name domain)).conclusion = .fails := by
  simp only [Sample.check]
  rw [if_neg fun hempty => hdeclared ((unavailable_eq_nil h).1 (List.isEmpty_iff.1 hempty))]

end MachineCompiler.Source.Program
