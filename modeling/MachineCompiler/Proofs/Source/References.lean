import MachineCompiler.Proofs.Source.Likeness

/-!
# References between facts

Facts refer to one another by alias. The declarations of a program are seen as one list in the order
of their facts, so that a fact and its declaration stand at the same place. Every reference is
written as the alias of one fact, the one at the place of the declaration referred to, or as the
constant for an absent value.
-/

namespace MachineCompiler.Source

open Engine (Fact ModuleRef)

/-- The arguments of a declaration's term that refer to another declaration: their positions, and
what is referred to there, if anything. -/
def Declaration.links : Declaration → List (Nat × Option Reference)
  | .typeDef _ | .enumTypeDef _ | .modelType _ | .event _ | .machine _ => []
  | .variable declaration | .state declaration => [(1, some ⟨.machine, declaration.owner⟩)]
  | .function declaration => [(1, declaration.owner.map (⟨.machine, ·⟩))]
  | .anonFunction declaration => [(0, declaration.owner.map (⟨.machine, ·⟩))]
  | .transition declaration =>
    [(0, some ⟨.state, declaration.source⟩), (2, some ⟨.state, declaration.target⟩)]
  | .handler declaration => [(0, some ⟨.state, declaration.source⟩)]
  | .property declaration => [(0, some declaration.target)]

/-- All references of a declaration are written at some position. -/
theorem Declaration.references_eq_links (declaration : Declaration) :
    declaration.references = declaration.links.filterMap Prod.snd := by
  cases declaration with
  | function declaration | anonFunction declaration =>
    cases howner : declaration.owner <;> simp [references, links, howner]
  | _ => rfl

namespace Program

variable {program : Program} {reference : Reference} {place : Nat}

/-- What a reference is written as; the constant for an absent value if there is none. -/
def written (naming : Naming) (target : Option Reference) : Term :=
  (target.map (referTo naming)).getD Term.nil

/-- A declaration's term has what a reference is written as at each of its links. -/
theorem argument_of_link (naming : Naming) {declaration : Declaration}
    {link : Nat × Option Reference} (h : link ∈ declaration.links) :
    (declaration.term naming).arguments[link.1]? = some (written naming link.2) := by
  cases declaration with
  | «variable» declaration | state declaration | handler declaration | property declaration =>
    obtain rfl := List.mem_singleton.1 h
    rfl
  | function declaration | anonFunction declaration =>
    obtain rfl := List.mem_singleton.1 h
    refine congrArg some ?_
    cases declaration.owner <;> rfl
  | transition declaration =>
    obtain rfl | h := List.mem_cons.1 h
    · rfl
    · obtain rfl := List.mem_singleton.1 h
      rfl
  | _ => cases h

/-- The declarations in the order of their facts, each with the reference that leads to it. -/
def entries (program : Program) : List (Reference × Declaration) :=
  factOrder.flatMap fun kind =>
    (program.table kind).map fun entry => (⟨kind, entry.1⟩, entry.2)

/-- The fact of a declaration. -/
def factFor (program : Program) (entry : Reference × Declaration) : Fact :=
  ⟨program.alias? entry.1, entry.2.term program.alias?⟩

theorem map_fst_entries :
    program.entries.map Prod.fst =
      factOrder.flatMap fun kind => (program.idsOf kind).map (⟨kind, ·⟩) := by
  rw [entries, List.map_flatMap]
  simp only [List.map_map, Function.comp_def, ids_of_eq, Table.ids]

/-- Only declarations of some kinds have an alias. -/
theorem kind_of_alias {name : String} (h : program.alias? reference = some name) :
    reference.kind ∈ aliasedKinds ∧ program.holds reference = true :=
  mem_map_fst_aliases.1 (List.mem_map.2 ⟨_, mem_aliases_of_alias h, rfl⟩)

/-- The facts are those of the declarations, in order. -/
theorem facts_eq : program.facts = program.entries.map program.factFor := by
  have hfact (kind : Kind) : factOf program.alias? kind =
      fun entry => program.factFor (⟨kind, entry.1⟩, entry.2) := by
    funext entry
    unfold factOf factFor
    split
    · rfl
    · rename_i hkind
      have hnone : program.alias? ⟨kind, entry.1⟩ = none :=
        Option.eq_none_iff_forall_ne_some.2 fun name h => hkind (kind_of_alias h).1
      rw [hnone]
  have hfacts : program.facts = program.factsUnder program.alias? := rfl
  rw [hfacts, facts_under_eq, entries, List.map_flatMap]
  simp only [List.map_map, Function.comp_def, hfact]

/-- There is one fact for each declaration. -/
theorem length_facts : program.facts.length = program.size := by
  simp [facts, factsUnder, size, kinds, idsOf, Table.ids]
  omega

/-- The references of the list are those that lead to a declaration. -/
theorem mem_map_fst_entries :
    reference ∈ program.entries.map Prod.fst ↔ program.holds reference = true := by
  have hlisted : reference.kind ∈ factOrder := by cases reference.kind <;> decide
  rw [map_fst_entries, mem_references, and_iff_right hlisted]

/-- The alias of the fact at a place. -/
def aliasAt (facts : List Fact) (place : Nat) : Option String :=
  facts[place]?.bind Fact.binding

theorem alias_at_facts : aliasAt program.facts place =
    (program.entries.map Prod.fst)[place]?.bind program.alias? := by
  rw [aliasAt, facts_eq, List.getElem?_map, List.getElem?_map]
  cases program.entries[place]? <;> rfl

/-- What a reference is in the facts of a program. -/
inductive Denotes (program : Program) (facts : List Fact) : Option Reference → Term → Prop
  /-- The alias of the one fact that stands where the declaration referred to stands. -/
  | found {reference : Reference} {name : String} {place : Nat}
      (kind : reference.kind ∈ aliasedKinds) (holds : program.holds reference = true)
      (declared : (program.entries.map Prod.fst)[place]? = some reference)
      (only : ∀ other, aliasAt facts other = some name ↔ other = place) :
      Denotes program facts (some reference) (.symbol name)
  /-- The constant for an absent value, if there is no such declaration. -/
  | absent {target : Option Reference}
      (none : ∀ reference, target = some reference → reference.kind ∈ aliasedKinds →
        program.holds reference = false) :
      Denotes program facts target Term.nil

/-- The facts of a program, one for each declaration, refer to one another and to nothing else. -/
structure ReferentiallyClosed (program : Program) (facts : List Fact) : Prop where
  size : facts.length = program.size
  order : facts = program.entries.map program.factFor
  /-- No declaration is listed twice. -/
  once : (program.entries.map Prod.fst).Nodup
  /-- The facts with an alias are those of certain kinds. -/
  named : ∀ (place : Nat) (reference : Reference),
    (program.entries.map Prod.fst)[place]? = some reference →
      ((aliasAt facts place).isSome ↔ reference.kind ∈ aliasedKinds)
  distinct : (facts.filterMap Fact.binding).Nodup
  proper : "NIL" ∉ facts.filterMap Fact.binding
  /-- Every reference of a declaration is written in its fact. -/
  links : ∀ (place : Nat) (entry : Reference × Declaration), program.entries[place]? = some entry →
    ∀ link ∈ entry.2.links, ∃ fact argument, facts[place]? = some fact ∧
      fact.term.arguments[link.1]? = some argument ∧ program.Denotes facts link.2 argument

theorem nodup_map_fst_entries (h : ∀ kind, (program.table kind).ids.Nodup) :
    (program.entries.map Prod.fst).Nodup := by
  rw [map_fst_entries]
  exact nodup_references (by decide) h

/-- The aliases of the facts are those of the declarations. -/
theorem mem_bindings {name : String} : name ∈ program.facts.filterMap Fact.binding ↔
    ∃ entry ∈ program.entries, program.alias? entry.1 = some name := by
  rw [facts_eq, List.filterMap_map, List.mem_filterMap]
  exact Iff.rfl

/-- An alias belongs to the fact of one declaration. -/
theorem nodup_bindings (h : ∀ kind, (program.table kind).ids.Nodup) :
    (program.facts.filterMap Fact.binding).Nodup := by
  have hbindings : program.facts.filterMap Fact.binding =
      (program.entries.map Prod.fst).filterMap program.alias? := by
    rw [facts_eq, List.filterMap_map, List.filterMap_map]
    rfl
  rw [hbindings]
  exact (nodup_map_fst_entries h).filterMap fun first second name hfirst hsecond =>
    alias_injective hfirst hsecond

/-- The facts are where the declarations are, so an alias leads back to its declaration. -/
theorem alias_at_iff (h : ∀ kind, (program.table kind).ids.Nodup) {name : String}
    (hplace : (program.entries.map Prod.fst)[place]? = some reference)
    (hname : program.alias? reference = some name) (other : Nat) :
    aliasAt program.facts other = some name ↔ other = place := by
  rw [alias_at_facts, Option.bind_eq_some_iff]
  constructor
  · rintro ⟨found, hfound, hsame⟩
    obtain rfl := alias_injective hsame hname
    exact (List.getElem?_inj (List.getElem?_eq_some_iff.1 hfound).1 (nodup_map_fst_entries h)).1
      (hfound.trans hplace.symm)
  · rintro rfl
    exact ⟨reference, hplace, hname⟩

/-- What a reference is written as denotes what it refers to. -/
theorem denotes_written (h : ∀ kind, (program.table kind).ids.Nodup)
    (target : Option Reference) :
    program.Denotes program.facts target (written program.alias? target) := by
  cases target with
  | none => exact .absent nofun
  | some reference =>
    show program.Denotes program.facts (some reference) (referTo program.alias? reference)
    rw [referTo]
    cases hname : program.alias? reference with
    | none =>
      refine .absent fun other heq hkind => Bool.eq_false_iff.2 fun hholds => ?_
      obtain rfl := Option.some.inj heq
      obtain ⟨name, hsome⟩ := alias_of_holds hkind hholds
      rw [hname] at hsome
      contradiction
    | some name =>
      obtain ⟨hkind, hholds⟩ := kind_of_alias hname
      obtain ⟨place, hplace⟩ := List.mem_iff_getElem?.1 (mem_map_fst_entries.2 hholds)
      exact .found hkind hholds hplace (alias_at_iff h hplace hname)

/-- The model of a program, whose references may lead nowhere, has one fact for each declaration.
Facts have distinct aliases, and a reference is the alias of the one fact of the declaration
referred to, or the constant for an absent value if there is no such fact with an alias. -/
theorem model_is_referentially_closed (h : ∀ kind, (program.table kind).ids.Nodup) (name : String)
    (domain : ModuleRef) : ReferentiallyClosed program (program.toModel name domain).facts where
  size := length_facts
  order := facts_eq
  once := nodup_map_fst_entries h
  named place reference hplace := by
    show (aliasAt program.facts place).isSome ↔ _
    rw [alias_at_facts, hplace, Option.bind_some]
    constructor
    · intro hsome
      obtain ⟨name, hname⟩ := Option.isSome_iff_exists.1 hsome
      exact (kind_of_alias hname).1
    · intro hkind
      have hholds := mem_map_fst_entries.1 (List.mem_of_getElem? hplace)
      exact Option.isSome_iff_exists.2 (alias_of_holds hkind hholds)
  distinct := nodup_bindings h
  proper hnil := by
    obtain ⟨entry, -, halias⟩ := mem_bindings.1 hnil
    exact alias_ne_nil halias rfl
  links place entry hentry link hlink := by
    refine ⟨program.factFor entry, written program.alias? link.2, ?_, argument_of_link _ hlink,
      denotes_written h link.2⟩
    show program.facts[place]? = _
    rw [facts_eq, List.getElem?_map, hentry, Option.map_some]

/-- Two machines of one name, a third one whose name is made like the alias of the second, a state
without its machine, a transition to an absent state, and properties of two declarations, only one
of which has an alias. -/
theorem model_is_referentially_closed_dangling :
    let program : Program :=
      { Program.empty with
        machines := [(0, ⟨"Main", .real, none, .unknown⟩), (1, ⟨"Main", .spec, none, .unknown⟩),
          (2, ⟨"Main_1", .real, none, .unknown⟩)]
        states := [(3, ⟨["Run"], 2, none, none, .unknown⟩),
          (4, ⟨["Lost"], 9, none, none, .unknown⟩)]
        transitions := [(5, ⟨3, "go", 8, none, .unknown⟩)]
        properties := [(6, ⟨⟨.machine, 1⟩, "hot", .nil, .unknown⟩),
          (7, ⟨⟨.transition, 5⟩, "cold", .nil, .unknown⟩)]
        nextId := 8 }
    (∀ kind, (program.table kind).ids.Nodup) ∧
      ReferentiallyClosed program (program.toModel "main" (.named "P")).facts ∧
      program.facts.map Fact.binding =
        [some "machdecl__Main", some "machdecl__Main_1", some "machdecl__Main_1_1",
          some "statedecl__Main_1__Run", some "statedecl____Lost", none, none, none] ∧
      program.entries.flatMap (fun entry => entry.2.links.map fun link =>
        (written program.alias? link.2).print) =
        ["machdecl__Main_1_1", "NIL", "statedecl__Main_1__Run", "NIL", "machdecl__Main_1",
          "NIL"] := by
  intro program
  have hnodup : ∀ kind, (program.table kind).ids.Nodup := by
    intro kind
    cases kind <;> decide
  exact ⟨hnodup, model_is_referentially_closed hnodup "main" (.named "P"), by decide +kernel,
    by decide +kernel⟩

end Program

end MachineCompiler.Source
