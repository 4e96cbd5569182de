import MachineCompiler.Proofs.Source.Likeness

/-!
# Programs with the same model

Two programs have the same model exactly when they differ in their identifiers only. In one
direction, the aliases depend on names and order alone. In the other direction, the aliases are
distinct, so a reference in the model leads back to one declaration, and neither an alias nor a
present value can be taken for an absent one.
-/

namespace MachineCompiler.Source

open Engine (Fact Model ModuleRef)

/-! ## Programs that differ in their identifiers -/

/-- New identifiers for the declarations of each kind. -/
abbrev Renaming := Kind → DeclarationId → DeclarationId

/-- The reference under new identifiers. -/
def Reference.carry (rename : Renaming) (reference : Reference) : Reference :=
  ⟨reference.kind, rename reference.kind reference.id⟩

/-- The declarations are of one kind and have the same fields, with regions related by `E`, and the
references of the second one are those of the first one under new identifiers. -/
def Declaration.Carried (E : Span → Span → Prop) (rename : Renaming) :
    Declaration → Declaration → Prop
  | .typeDef first, .typeDef second =>
    first.name = second.name ∧ first.type.Alike E second.type ∧ E first.span second.span
  | .enumTypeDef first, .enumTypeDef second =>
    first.name = second.name ∧ first.elements = second.elements ∧ E first.span second.span
  | .modelType first, .modelType second =>
    first.name = second.name ∧ E first.span second.span
  | .event first, .event second =>
    first.name = second.name ∧ Option.Rel (Term.Alike E) first.bound second.bound ∧
      Option.Rel (Term.Alike E) first.payload second.payload ∧ E first.span second.span
  | .machine first, .machine second =>
    first.name = second.name ∧ first.role = second.role ∧
      Option.Rel (Term.Alike E) first.bound second.bound ∧ E first.span second.span
  | .state first, .state second =>
    first.name = second.name ∧ second.owner = rename .machine first.owner ∧
      Option.Rel (Term.Alike E) first.entry second.entry ∧
      Option.Rel (Term.Alike E) first.exit second.exit ∧ E first.span second.span
  | .variable first, .variable second =>
    first.name = second.name ∧ second.owner = rename .machine first.owner ∧
      first.type.Alike E second.type ∧ E first.span second.span
  | .transition first, .transition second =>
    second.source = rename .state first.source ∧ first.trigger = second.trigger ∧
      second.target = rename .state first.target ∧
      Option.Rel (Term.Alike E) first.action second.action ∧ E first.span second.span
  | .function first, .function second =>
    first.name = second.name ∧ second.owner = first.owner.map (rename .machine) ∧
      List.Forall₂ (fun a b => a.1 = b.1 ∧ a.2.Alike E b.2) first.parameters second.parameters ∧
      Option.Rel (Term.Alike E) first.result second.result ∧
      first.body.Alike E second.body ∧ E first.span second.span
  | .anonFunction first, .anonFunction second =>
    second.owner = first.owner.map (rename .machine) ∧ first.body.Alike E second.body ∧
      E first.span second.span
  | .handler first, .handler second =>
    second.source = rename .state first.source ∧ first.trigger = second.trigger ∧
      first.action.Alike E second.action ∧ E first.span second.span
  | .property first, .property second =>
    second.target = first.target.carry rename ∧ first.key = second.key ∧
      first.value.Alike E second.value ∧ E first.span second.span
  | _, _ => False

/-- The optional terms of a declaration. -/
def Declaration.optionalTerms : Declaration → List (Option Term)
  | .event declaration => [declaration.bound, declaration.payload]
  | .machine declaration => [declaration.bound]
  | .state declaration => [declaration.entry, declaration.exit]
  | .transition declaration => [declaration.action]
  | .function declaration => [declaration.result]
  | _ => []

namespace Program

/-- Kind by kind and in order, the declarations of the second program are those of the first one
under the new identifiers. -/
def Carries (first : Program) (E : Span → Span → Prop) (rename : Renaming) (second : Program) :
    Prop :=
  ∀ kind, List.Forall₂
    (fun entry entry' => entry'.1 = rename kind entry.1 ∧ entry.2.Carried E rename entry'.2)
    (first.table kind) (second.table kind)

/-- The programs differ in their identifiers only, up to the relation between regions. -/
def Isomorphic (first : Program) (E : Span → Span → Prop) (second : Program) : Prop :=
  ∃ rename : Renaming, first.Carries E rename second

/-- The program can be written as a model without loss: identifiers are unique in each table, every
reference leads to a declaration, properties belong to declarations with an alias, and no optional
term is the constant for an absent one. -/
structure Writable (program : Program) : Prop where
  nodup : ∀ kind, (program.table kind).ids.Nodup
  closed : program.Closed
  aliased : ∀ entry ∈ program.properties, entry.2.target.kind ∈ aliasedKinds
  present : ∀ kind, ∀ entry ∈ program.table kind, some Term.nil ∉ entry.2.optionalTerms

/-! ## Terms for references and optional values -/

section Terms

variable {E : Span → Span → Prop} {rename : Renaming}

theorem alike_nil_left {term : Term} : Term.nil.Alike E term ↔ term = Term.nil := by
  cases term <;> simp [Term.nil, Term.Alike, eq_comm]

theorem alike_nil_right {term : Term} : term.Alike E Term.nil ↔ term = Term.nil := by
  cases term <;> simp [Term.nil, Term.Alike]

/-- An absent value is told from a present one, unless that is the constant for it. -/
theorem alike_optional {first second : Option Term} (hfirst : some Term.nil ≠ first)
    (hsecond : some Term.nil ≠ second) :
    (optional first).Alike E (optional second) ↔ Option.Rel (Term.Alike E) first second := by
  rcases first with _ | first <;> rcases second with _ | second
  · exact iff_of_true (alike_nil_left.2 rfl) .none
  · exact iff_of_false (fun h => hsecond (congrArg some (alike_nil_left.1 h).symm)) nofun
  · exact iff_of_false (fun h => hfirst (congrArg some (alike_nil_right.1 h).symm)) nofun
  · exact ⟨.some, fun h => by cases h; assumption⟩

/-- The numbers of an enumeration are told apart from absent ones. -/
theorem alike_elements {first second : List (String × Option Int)} :
    (Term.AlikeAll E (first.map fun element => .text element.1)
        (second.map fun element => .text element.1) ∧
      Term.AlikeAll E (first.map fun element => (element.2.map Term.number).getD Term.nil)
        (second.map fun element => (element.2.map Term.number).getD Term.nil)) ↔
      first = second := by
  induction first generalizing second with
  | nil => cases second <;> simp [Term.AlikeAll]
  | cons element rest ih =>
    cases second with
    | nil => simp [Term.AlikeAll]
    | cons other others =>
      obtain ⟨name, number⟩ := element
      obtain ⟨name', number'⟩ := other
      have hnumber : ((number.map Term.number).getD Term.nil).Alike E
          ((number'.map Term.number).getD Term.nil) ↔ number = number' := by
        cases number <;> cases number' <;> simp [Term.nil, Term.Alike]
      simp only [List.map_cons, Term.alike_all_cons, Term.alike_text, hnumber, List.cons.injEq,
        Prod.mk.injEq, ← ih]
      tauto

theorem alike_parameters (hunknown : E .unknown .unknown)
    {first second : List (String × Term)} :
    Term.AlikeAll E
        (first.map fun parameter => .apply "Param" [.text parameter.1, parameter.2])
        (second.map fun parameter => .apply "Param" [.text parameter.1, parameter.2]) ↔
      List.Forall₂ (fun a b => a.1 = b.1 ∧ a.2.Alike E b.2) first second := by
  simp [Term.alike_all_iff, List.forall₂_map_left_iff, List.forall₂_map_right_iff,
    hunknown]

theorem alike_names {first second : List String} :
    Term.AlikeAll E (first.map .text) (second.map .text) ↔ first = second := by
  simp [Term.alike_all_iff, List.forall₂_map_left_iff, List.forall₂_map_right_iff]

end Terms

/-! ## Terms of declarations -/

variable {E : Span → Span → Prop} {rename : Renaming} {first second : Program}

/-- A declaration has the alias that it has under its new identifier. -/
def Follows (rename : Renaming) (first second : Program) : Prop :=
  ∀ reference, reference.kind ∈ aliasedKinds → first.holds reference = true →
    first.alias? reference = second.alias? (reference.carry rename)

/-- The term for a reference leads back to the declaration. -/
theorem Follows.alike_refer (h : Follows rename first second) {reference reference' : Reference}
    (hkind : reference.kind ∈ aliasedKinds) (hholds : first.holds reference = true)
    (hkind' : reference'.kind ∈ aliasedKinds) (hholds' : second.holds reference' = true) :
    (referTo first.alias? reference).Alike E (referTo second.alias? reference') ↔
      reference' = reference.carry rename := by
  obtain ⟨name, hname⟩ := alias_of_holds hkind hholds
  obtain ⟨name', hname'⟩ := alias_of_holds hkind' hholds'
  have hcarried := (h reference hkind hholds).symm.trans hname
  rw [referTo, referTo, hname, hname']
  refine Term.alike_symbol.trans ⟨fun heq => ?_, fun heq => ?_⟩
  · exact alias_injective hname' (heq ▸ hcarried)
  · rw [heq, hcarried] at hname'
    exact Option.some.inj hname'

/-- No reference is taken for an absent owner. -/
theorem not_alike_refer_nil {program : Program} {reference : Reference}
    (hkind : reference.kind ∈ aliasedKinds) (hholds : program.holds reference = true) :
    referTo program.alias? reference ≠ Term.nil := by
  obtain ⟨name, hname⟩ := alias_of_holds hkind hholds
  rw [referTo, hname]
  exact fun heq => alias_ne_nil hname (Term.symbol.inj heq)

theorem Follows.alike_refer_to_owner (h : Follows rename first second)
    {owner owner' : Option DeclarationId}
    (hholds : ∀ id ∈ owner, first.holds ⟨.machine, id⟩ = true)
    (hholds' : ∀ id ∈ owner', second.holds ⟨.machine, id⟩ = true) :
    (referToOwner first.alias? owner).Alike E (referToOwner second.alias? owner') ↔
      owner' = owner.map (rename .machine) := by
  have hmachine : Kind.machine ∈ aliasedKinds := by decide
  rcases owner with _ | id <;> rcases owner' with _ | id'
  · exact iff_of_true (alike_nil_left.2 rfl) rfl
  · exact iff_of_false
      (fun halike => not_alike_refer_nil hmachine (hholds' id' rfl) (alike_nil_left.1 halike)) nofun
  · exact iff_of_false
      (fun halike => not_alike_refer_nil hmachine (hholds id rfl) (alike_nil_right.1 halike)) nofun
  · refine (h.alike_refer (E := E) hmachine (hholds id rfl) hmachine (hholds' id' rfl)).trans ?_
    simp [Reference.carry]

theorem role_constant_injective {role role' : MachineRole} (h : role.constant = role'.constant) :
    role = role' := by
  cases role <;> cases role' <;> first | rfl | exact absurd h (by decide)

theorem holds_owner {program : Program} {owner : Option DeclarationId}
    (h : ∀ reference ∈ owner.toList.map (⟨.machine, ·⟩), program.holds reference = true) :
    ∀ id ∈ owner, program.holds ⟨.machine, id⟩ = true :=
  fun id hid => h _ (List.mem_map.2 ⟨id, Option.mem_toList.2 hid, rfl⟩)

/-- The terms for two declarations of one kind are alike exactly when one is carried to the other. -/
theorem Follows.alike_term (h : Follows rename first second) (hunknown : E .unknown .unknown)
    (hfirst : first.Writable) (hsecond : second.Writable) {kind : Kind}
    {entry entry' : DeclarationId × Declaration} (hentry : entry ∈ first.table kind)
    (hentry' : entry' ∈ second.table kind) :
    (entry.2.term first.alias?).Alike E (entry'.2.term second.alias?) ↔
      entry.2.Carried E rename entry'.2 := by
  have hheld := hfirst.closed kind entry hentry
  have hheld' := hsecond.closed kind entry' hentry'
  have hpresent := hfirst.present kind entry hentry
  have hpresent' := hsecond.present kind entry' hentry'
  have refer (kind : Kind) (hkind : kind ∈ aliasedKinds) (id id' : DeclarationId)
      (hholds : first.holds ⟨kind, id⟩ = true) (hholds' : second.holds ⟨kind, id'⟩ = true) :
      (referTo first.alias? ⟨kind, id⟩).Alike E (referTo second.alias? ⟨kind, id'⟩) ↔
        id' = rename kind id := by
    rw [h.alike_refer hkind hholds hkind hholds']
    simp [Reference.carry]
  -- One case for each kind. The terms are unfolded side by side; references and optional values are
  -- the only fields that are not written as they are.
  cases kind <;> obtain ⟨⟨id, declaration⟩, hlisted, rfl⟩ := List.mem_map.1 hentry <;>
    obtain ⟨⟨id', declaration'⟩, hlisted', rfl⟩ := List.mem_map.1 hentry' <;>
    simp only [Prod.map_apply, Declaration.optionalTerms, List.mem_cons, List.not_mem_nil,
      or_false, not_or] at hpresent hpresent'
  case typeDef => simp [Declaration.term, typeDefTerm, Declaration.Carried, and_assoc]
  case enumTypeDef =>
    simp [Declaration.term, enumTypeDefTerm, Declaration.Carried, hunknown,
      alike_elements, and_assoc]
  case modelType => simp [Declaration.term, modelTypeTerm, Declaration.Carried]
  case event =>
    simp [Declaration.term, eventTerm, Declaration.Carried, alike_optional hpresent.1 hpresent'.1,
      alike_optional hpresent.2 hpresent'.2, and_assoc]
  case machine =>
    have hrole : declaration.role.constant = declaration'.role.constant ↔
        declaration.role = declaration'.role := ⟨role_constant_injective, congrArg _⟩
    simp [Declaration.term, machineTerm, Declaration.Carried, hrole,
      alike_optional hpresent hpresent', and_assoc]
  case state =>
    have howner := refer .machine (by decide) declaration.owner declaration'.owner
      (hheld _ List.mem_cons_self) (hheld' _ List.mem_cons_self)
    simp [Declaration.term, stateTerm, Declaration.Carried, hunknown, alike_names,
      howner, alike_optional hpresent.1 hpresent'.1, alike_optional hpresent.2 hpresent'.2,
      and_assoc]
  case «variable» =>
    have howner := refer .machine (by decide) declaration.owner declaration'.owner
      (hheld _ List.mem_cons_self) (hheld' _ List.mem_cons_self)
    simp [Declaration.term, variableTerm, Declaration.Carried, howner, and_assoc]
  case transition =>
    have hsource := refer .state (by decide) declaration.source declaration'.source
      (hheld _ List.mem_cons_self) (hheld' _ List.mem_cons_self)
    have htarget := refer .state (by decide) declaration.target declaration'.target
      (hheld _ (List.mem_cons_of_mem _ List.mem_cons_self))
      (hheld' _ (List.mem_cons_of_mem _ List.mem_cons_self))
    simp [Declaration.term, transitionTerm, Declaration.Carried, hsource, htarget,
      alike_optional hpresent hpresent', and_assoc]
  case function =>
    have howner := h.alike_refer_to_owner (E := E) (holds_owner hheld) (holds_owner hheld')
    simp [Declaration.term, functionTerm, Declaration.Carried, howner, hunknown,
      alike_parameters hunknown, alike_optional hpresent hpresent', and_assoc]
  case anonFunction =>
    have howner := h.alike_refer_to_owner (E := E) (holds_owner hheld) (holds_owner hheld')
    simp [Declaration.term, anonFunctionTerm, Declaration.Carried, howner, and_assoc]
  case handler =>
    have hsource := refer .state (by decide) declaration.source declaration'.source
      (hheld _ List.mem_cons_self) (hheld' _ List.mem_cons_self)
    simp [Declaration.term, handlerTerm, Declaration.Carried, hsource, and_assoc]
  case property =>
    have htarget := h.alike_refer (E := E) (hfirst.aliased _ hlisted)
      (hheld _ List.mem_cons_self) (hsecond.aliased _ hlisted') (hheld' _ List.mem_cons_self)
    simp [Declaration.term, propertyTerm, Declaration.Carried, htarget, and_assoc]

/-! ## From the model to the program -/

/-- The identifiers at the same places of two programs. -/
def matching (first second : Program) : Renaming := fun kind id =>
  (((first.idsOf kind).zip (second.idsOf kind)).lookup id).getD id

theorem forall_two_mem {α β : Type} {R : α → β → Prop} {as : List α} {bs : List β}
    (h : List.Forall₂ R as bs) : List.Forall₂ (fun a b => (a ∈ as ∧ b ∈ bs) ∧ R a b) as bs := by
  obtain ⟨hlength, hrelated⟩ := List.forall₂_iff_zip.1 h
  exact List.forall₂_iff_zip.2 ⟨hlength, fun hmem => ⟨List.of_mem_zip hmem, hrelated hmem⟩⟩

/-- Related entries are at the same places, so their identifiers match. -/
theorem forall_two_matching {R : DeclarationId × Declaration → DeclarationId × Declaration → Prop}
    {kind : Kind} (hnodup : (first.table kind).ids.Nodup)
    (h : List.Forall₂ R (first.table kind) (second.table kind)) :
    List.Forall₂ (fun entry entry' => entry'.1 = matching first second kind entry.1 ∧ R entry entry')
      (first.table kind) (second.table kind) := by
  obtain ⟨hlength, hrelated⟩ := List.forall₂_iff_zip.1 h
  refine List.forall₂_iff_zip.2 ⟨hlength, fun {entry entry'} hmem => ⟨?_, hrelated hmem⟩⟩
  have hkeys : (((first.table kind).ids.zip (second.table kind).ids).map Prod.fst).Nodup := by
    rw [List.map_fst_zip (by simp [Table.ids, hlength])]
    exact hnodup
  have hids : (entry.1, entry'.1) ∈ (first.table kind).ids.zip (second.table kind).ids := by
    rw [Table.ids, Table.ids, List.zip_map]
    exact List.mem_map.2 ⟨(entry, entry'), hmem, rfl⟩
  rw [matching, ids_of_eq, ids_of_eq, lookup_of_mem hkeys hids, Option.getD_some]

/-- Facts that are alike are bound to the same aliases. -/
theorem follows_matching (hnodup : ∀ kind, (first.table kind).ids.Nodup)
    (h : ∀ kind, List.Forall₂
      (fun entry entry' =>
        (factOf first.alias? kind entry).Alike E (factOf second.alias? kind entry'))
      (first.table kind) (second.table kind)) :
    Follows (matching first second) first second := by
  intro reference hkind hholds
  obtain ⟨declaration, hmem⟩ := holds_iff.1 hholds
  obtain ⟨entry', -, hid, hbinding, -⟩ :=
    exists_related (forall_two_matching (hnodup _) (h reference.kind)) hmem
  -- A fact binds the alias of its declaration, and the facts at one place bind the same one.
  rw [factOf, factOf, if_pos hkind, if_pos hkind] at hbinding
  rw [Reference.carry, ← hid]
  exact hbinding

theorem isomorphic_of_facts_alike (hunknown : E .unknown .unknown) (hfirst : first.Writable)
    (hsecond : second.Writable) (h : List.Forall₂ (Fact.Alike E) first.facts second.facts) :
    first.Isomorphic E second := by
  have hkinds := facts_alike_iff.1 h
  -- The renaming is read off the places in the tables. That it respects references is what the
  -- aliases are needed for.
  have hfollows := follows_matching hfirst.nodup hkinds
  refine ⟨matching first second, fun kind => ?_⟩
  refine (forall_two_mem (forall_two_matching (hfirst.nodup kind) (hkinds kind))).imp ?_
  rintro entry entry' ⟨⟨hentry, hentry'⟩, hid, -, hterm⟩
  exact ⟨hid, (hfollows.alike_term hunknown hfirst hsecond hentry hentry').1 hterm⟩

/-! ## From the program to the model -/

theorem get_machine {program : Program} (hnodup : ∀ kind, (program.table kind).ids.Nodup)
    {id : DeclarationId} {machine : Machine}
    (h : (id, Declaration.machine machine) ∈ program.table .machine) :
    program.machines.get? id = some machine := by
  obtain ⟨⟨_, _⟩, hlisted, heq⟩ := List.mem_map.1 h
  cases heq
  exact Table.get_of_mem (nodup_ids_of hnodup .machine) hlisted

/-- A machine that is not there has no name. -/
theorem machine_name_of_missing {program : Program} {id : DeclarationId}
    (h : program.holds ⟨.machine, id⟩ = false) : program.machineName id = "" := by
  unfold machineName
  cases hget : program.machines.get? id with
  | none => rfl
  | some machine =>
    have hlisted : (id, Declaration.machine machine) ∈ program.table .machine :=
      List.mem_map.2 ⟨_, Table.mem_of_get hget, rfl⟩
    exact absurd (holds_iff.2 ⟨_, hlisted⟩) (Bool.eq_false_iff.1 h)

/-- What references lead to is there under the new identifiers exactly when it was there before. -/
def LeadsAlike (rename : Renaming) (first second : Program) : Prop :=
  ∀ kind, ∀ entry ∈ first.table kind, ∀ reference ∈ entry.2.references,
    second.holds (reference.carry rename) = first.holds reference

theorem Carries.holds (h : first.Carries E rename second) {reference : Reference}
    (hholds : first.holds reference = true) : second.holds (reference.carry rename) = true := by
  obtain ⟨declaration, hmem⟩ := holds_iff.1 hholds
  obtain ⟨⟨_, declaration'⟩, hmem', rfl, -⟩ := exists_related (h reference.kind) hmem
  exact holds_iff.2 ⟨declaration', hmem'⟩

theorem Carries.leads_alike (h : first.Carries E rename second) (hclosed : first.Closed) :
    LeadsAlike rename first second := by
  intro kind entry hentry reference hreference
  have hholds := hclosed kind entry hentry reference hreference
  rw [hholds, h.holds hholds]

/-- Machines keep their names. -/
theorem Carries.machine_name (h : first.Carries E rename second)
    (hfirst : ∀ kind, (first.table kind).ids.Nodup)
    (hsecond : ∀ kind, (second.table kind).ids.Nodup) {id : DeclarationId}
    (hleads : second.holds ⟨.machine, rename .machine id⟩ = first.holds ⟨.machine, id⟩) :
    second.machineName (rename .machine id) = first.machineName id := by
  cases hholds : first.holds ⟨.machine, id⟩ with
  | false =>
    rw [machine_name_of_missing hholds, machine_name_of_missing (hleads.trans hholds)]
  | true =>
    obtain ⟨declaration, hmem⟩ := holds_iff.1 hholds
    obtain ⟨⟨id', declaration'⟩, hmem', rfl, hcarried⟩ := exists_related (h .machine) hmem
    have hkind := kind_of_mem hmem
    have hkind' := kind_of_mem hmem'
    cases declaration <;> cases hkind
    cases declaration' <;> cases hkind'
    rw [machineName, machineName, get_machine hfirst hmem, get_machine hsecond hmem']
    exact hcarried.1.symm

/-- Declarations keep the bases of their aliases. -/
theorem Carries.base (h : first.Carries E rename second)
    (hfirst : ∀ kind, (first.table kind).ids.Nodup)
    (hsecond : ∀ kind, (second.table kind).ids.Nodup) (hleads : LeadsAlike rename first second)
    {kind : Kind} {entry entry' : DeclarationId × Declaration} (hentry : entry ∈ first.table kind)
    (hentry' : entry' ∈ second.table kind) (hcarried : entry.2.Carried E rename entry'.2) :
    entry'.2.base second = entry.2.base first := by
  have hname {id : DeclarationId} (hreference : ⟨.machine, id⟩ ∈ entry.2.references) :
      second.machineName (rename .machine id) = first.machineName id :=
    h.machine_name hfirst hsecond (hleads kind entry hentry ⟨.machine, id⟩ hreference)
  cases kind <;> obtain ⟨⟨id, declaration⟩, -, rfl⟩ := List.mem_map.1 hentry <;>
    obtain ⟨⟨id', declaration'⟩, -, rfl⟩ := List.mem_map.1 hentry'
  case event => exact congrArg ("evdecl__" ++ ·) hcarried.1.symm
  case machine => exact congrArg ("machdecl__" ++ ·) hcarried.1.symm
  case state =>
    obtain ⟨hsame, howner, -⟩ := hcarried
    simp only [Declaration.base, stateBase, Prod.map_apply]
    rw [howner, hname List.mem_cons_self, hsame]
  case «variable» =>
    obtain ⟨hsame, howner, -⟩ := hcarried
    simp only [Declaration.base, variableBase, Prod.map_apply]
    rw [howner, hname List.mem_cons_self, hsame]
  case function =>
    obtain ⟨hsame, howner, -⟩ := hcarried
    simp only [Declaration.base, functionBase, Prod.map_apply]
    rw [howner]
    cases hcase : declaration.owner with
    | none => rw [← hsame]; rfl
    | some owner =>
      have hreference : ⟨.machine, owner⟩ ∈ (Declaration.function declaration).references := by
        simp [Declaration.references, hcase]
      simp only [Option.map_some, hname hreference, hsame]
  all_goals rfl

/-- The bases are those of the first program, for the declarations under their new identifiers. -/
theorem Carries.alias_bases (h : first.Carries E rename second)
    (hfirst : ∀ kind, (first.table kind).ids.Nodup)
    (hsecond : ∀ kind, (second.table kind).ids.Nodup) (hleads : LeadsAlike rename first second) :
    second.aliasBases = first.aliasBases.map (Prod.map (Reference.carry rename) id) := by
  rw [alias_bases_eq, alias_bases_eq, List.map_flatMap]
  refine congrArg (List.flatMap · aliasedKinds) (funext fun kind => ?_)
  rw [List.map_map, ← List.forall₂_eq_eq_eq, List.forall₂_map_left_iff, List.forall₂_map_right_iff]
  refine List.Forall₂.flip ((forall_two_mem (h kind)).imp ?_)
  rintro entry entry' ⟨⟨hentry, hentry'⟩, hid, hcarried⟩
  exact Prod.ext (congrArg (Reference.mk kind) hid)
    (h.base hfirst hsecond hleads hentry hentry' hcarried)

/-- What is there as before has the alias that it had. -/
theorem Carries.alias (h : first.Carries E rename second)
    (hfirst : ∀ kind, (first.table kind).ids.Nodup)
    (hsecond : ∀ kind, (second.table kind).ids.Nodup) (hleads : LeadsAlike rename first second)
    {reference : Reference} (hholds : second.holds (reference.carry rename) = first.holds reference) :
    second.alias? (reference.carry rename) = first.alias? reference := by
  cases hname : first.alias? reference with
  | some name =>
    -- Aliases are handed out by the bases alone, and those are the same in the same order.
    have hmem : (reference.carry rename, name) ∈ second.aliases := by
      rw [aliases, h.alias_bases hfirst hsecond hleads, AliasSupply.allocate_all_map]
      exact List.mem_map.2 ⟨_, mem_aliases_of_alias hname, rfl⟩
    exact alias_of_mem_aliases hsecond hmem
  | none =>
    refine Option.eq_none_iff_forall_not_mem.2 fun name hname' => ?_
    obtain ⟨hkind, hthere⟩ :=
      mem_map_fst_aliases.1 (List.mem_map.2 ⟨_, mem_aliases_of_alias hname', rfl⟩)
    have hkind' : reference.kind ∈ aliasedKinds := hkind
    have hthere' : first.holds reference = true := hholds.symm.trans hthere
    obtain ⟨other, hother⟩ := alias_of_holds hkind' hthere'
    rw [hname] at hother
    cases hother

section CarriedTerms

variable {naming naming' : Naming}

theorem alike_optional_of_rel {value value' : Option Term}
    (h : Option.Rel (Term.Alike E) value value') : (optional value).Alike E (optional value') := by
  cases h with
  | none => exact alike_nil_left.2 rfl
  | some halike => exact halike

/-- References with one alias are written the same. -/
theorem alike_refer_of_eq {reference reference' : Reference}
    (h : naming' reference' = naming reference) :
    (referTo naming reference).Alike E (referTo naming' reference') := by
  rw [referTo, referTo, h]
  cases naming reference with
  | none => exact alike_nil_left.2 rfl
  | some name => exact Term.alike_symbol.2 rfl

theorem alike_refer_to_owner_of_eq {owner : Option DeclarationId}
    (h : ∀ reference ∈ owner.toList.map (⟨.machine, ·⟩),
      naming' (reference.carry rename) = naming reference) :
    (referToOwner naming owner).Alike E (referToOwner naming' (owner.map (rename .machine))) := by
  cases owner with
  | none => exact alike_nil_left.2 rfl
  | some id => exact alike_refer_of_eq (h ⟨.machine, id⟩ List.mem_cons_self)

/-- A declaration under new identifiers is written like before when its references have the aliases
that they had. -/
theorem alike_term_of_carried (hunknown : E .unknown .unknown)
    {declaration declaration' : Declaration} (h : declaration.Carried E rename declaration')
    (hnaming : ∀ reference ∈ declaration.references,
      naming' (reference.carry rename) = naming reference) :
    (declaration.term naming).Alike E (declaration'.term naming') := by
  cases declaration <;> cases declaration' <;> try exact h.elim
  case typeDef.typeDef =>
    obtain ⟨hname, htype, hspan⟩ := h
    simp [Declaration.term, typeDefTerm, hname, htype, hspan]
  case enumTypeDef.enumTypeDef =>
    obtain ⟨hname, helements, hspan⟩ := h
    simp [Declaration.term, enumTypeDefTerm, hname, alike_elements.2 helements, hspan, hunknown]
  case modelType.modelType =>
    obtain ⟨hname, hspan⟩ := h
    simp [Declaration.term, modelTypeTerm, hname, hspan]
  case event.event =>
    obtain ⟨hname, hbound, hpayload, hspan⟩ := h
    simp [Declaration.term, eventTerm, hname, alike_optional_of_rel hbound,
      alike_optional_of_rel hpayload, hspan]
  case machine.machine =>
    obtain ⟨hname, hrole, hbound, hspan⟩ := h
    simp [Declaration.term, machineTerm, hname, hrole, alike_optional_of_rel hbound, hspan]
  case state.state first second =>
    obtain ⟨hname, howner, hentry, hexit, hspan⟩ := h
    have hrefer : (referTo naming ⟨.machine, first.owner⟩).Alike E
        (referTo naming' ⟨.machine, second.owner⟩) :=
      howner ▸ alike_refer_of_eq (hnaming _ List.mem_cons_self)
    simp [Declaration.term, stateTerm, hunknown, alike_names.2 hname, hrefer,
      alike_optional_of_rel hentry, alike_optional_of_rel hexit, hspan]
  case variable.variable first second =>
    obtain ⟨hname, howner, htype, hspan⟩ := h
    have hrefer : (referTo naming ⟨.machine, first.owner⟩).Alike E
        (referTo naming' ⟨.machine, second.owner⟩) :=
      howner ▸ alike_refer_of_eq (hnaming _ List.mem_cons_self)
    simp [Declaration.term, variableTerm, hname, hrefer, htype, hspan]
  case transition.transition first second =>
    obtain ⟨hsource, htrigger, htarget, haction, hspan⟩ := h
    have hrefer : (referTo naming ⟨.state, first.source⟩).Alike E
        (referTo naming' ⟨.state, second.source⟩) :=
      hsource ▸ alike_refer_of_eq (hnaming _ List.mem_cons_self)
    have hrefer' : (referTo naming ⟨.state, first.target⟩).Alike E
        (referTo naming' ⟨.state, second.target⟩) :=
      htarget ▸ alike_refer_of_eq (hnaming _ (List.mem_cons_of_mem _ List.mem_cons_self))
    simp [Declaration.term, transitionTerm, hrefer, htrigger, hrefer',
      alike_optional_of_rel haction, hspan]
  case function.function first second =>
    obtain ⟨hname, howner, hparameters, hresult, hbody, hspan⟩ := h
    have hrefer : (referToOwner naming first.owner).Alike E (referToOwner naming' second.owner) :=
      howner ▸ alike_refer_to_owner_of_eq hnaming
    simp [Declaration.term, functionTerm, hname, hrefer, hunknown,
      (alike_parameters hunknown).2 hparameters, alike_optional_of_rel hresult, hbody, hspan]
  case anonFunction.anonFunction first second =>
    obtain ⟨howner, hbody, hspan⟩ := h
    have hrefer : (referToOwner naming first.owner).Alike E (referToOwner naming' second.owner) :=
      howner ▸ alike_refer_to_owner_of_eq hnaming
    simp [Declaration.term, anonFunctionTerm, hrefer, hbody, hspan]
  case handler.handler first second =>
    obtain ⟨hsource, htrigger, haction, hspan⟩ := h
    have hrefer : (referTo naming ⟨.state, first.source⟩).Alike E
        (referTo naming' ⟨.state, second.source⟩) :=
      hsource ▸ alike_refer_of_eq (hnaming _ List.mem_cons_self)
    simp [Declaration.term, handlerTerm, hrefer, htrigger, haction, hspan]
  case property.property first second =>
    obtain ⟨htarget, hkey, hvalue, hspan⟩ := h
    have hrefer : (referTo naming first.target).Alike E (referTo naming' second.target) :=
      htarget ▸ alike_refer_of_eq (hnaming _ List.mem_cons_self)
    simp [Declaration.term, propertyTerm, hrefer, hkey, hvalue, hspan]

end CarriedTerms

/-- The facts of a program under new identifiers are those that it had, also when some of its
references lead nowhere. -/
theorem Carries.facts_alike (h : first.Carries E rename second) (hunknown : E .unknown .unknown)
    (hfirst : ∀ kind, (first.table kind).ids.Nodup)
    (hsecond : ∀ kind, (second.table kind).ids.Nodup) (hleads : LeadsAlike rename first second) :
    List.Forall₂ (Fact.Alike E) first.facts second.facts := by
  refine facts_alike_iff.2 fun kind => (forall_two_mem (h kind)).imp ?_
  rintro entry entry' ⟨⟨hentry, hentry'⟩, hid, hcarried⟩
  refine ⟨?_, alike_term_of_carried hunknown hcarried fun reference hreference =>
    h.alias hfirst hsecond hleads (hleads kind entry hentry reference hreference)⟩
  simp only [factOf]
  split
  · have hholds : first.holds ⟨kind, entry.1⟩ = true := holds_iff.2 ⟨entry.2, hentry⟩
    rw [hid]
    exact (h.alias hfirst hsecond hleads ((h.holds hholds).trans hholds.symm)).symm
  · rfl

theorem facts_alike_of_isomorphic (hunknown : E .unknown .unknown) (hfirst : first.Writable)
    (hsecond : second.Writable) (h : first.Isomorphic E second) :
    List.Forall₂ (Fact.Alike E) first.facts second.facts := by
  obtain ⟨rename, hcarries⟩ := h
  exact hcarries.facts_alike hunknown hfirst.nodup hsecond.nodup
    (hcarries.leads_alike hfirst.closed)

/-- Two programs have facts that are alike exactly when they are isomorphic. -/
theorem facts_alike_iff_isomorphic (hunknown : E .unknown .unknown) (hfirst : first.Writable)
    (hsecond : second.Writable) :
    List.Forall₂ (Fact.Alike E) first.facts second.facts ↔ first.Isomorphic E second :=
  ⟨isomorphic_of_facts_alike hunknown hfirst hsecond,
    facts_alike_of_isomorphic hunknown hfirst hsecond⟩

/-- Programs that can be written without loss have equal models exactly when they differ in their
identifiers only: with regions compared as regions of the same program, as models are compared, and
with regions that are equal in every respect as well. -/
theorem to_model_eq_iff_isomorphic (hfirst : first.Writable) (hsecond : second.Writable)
    (name : String) (domain : ModuleRef) :
    ((first.toModel name domain == second.toModel name domain) = true ↔
        first.Isomorphic Span.Same second) ∧
      (first.toModel name domain = second.toModel name domain ↔ first.Isomorphic Eq second) := by
  constructor
  · have hunknown : Span.unknown.Same .unknown := rfl
    rw [← facts_alike_iff_isomorphic hunknown hfirst hsecond]
    exact Model.beq_iff
  · rw [← facts_alike_iff_isomorphic rfl hfirst hsecond, Fact.all_alike_eq_iff]
    simp [toModel]

/-- A machine with a state and a property of the state, once with identifiers from zero on and once
with later ones: the models are equal. -/
theorem to_model_eq_iff_isomorphic_of_shifted :
    let declared (start : DeclarationId) : Program :=
      (((emptyFrom start).add (.machine ⟨"Main", .real, none, .unknown⟩)).add
        (.state ⟨["Run"], start, some (.symbol "go"), none, .unknown⟩)).add
        (.property ⟨⟨.state, start + 1⟩, "hot", .nil, .unknown⟩)
    (declared 0).Writable ∧ (declared 7).Writable ∧ (declared 0).Isomorphic Eq (declared 7) ∧
      (declared 0).toModel "Main" (.named "P") = (declared 7).toModel "Main" (.named "P") := by
  intro declared
  have hpresent (start : DeclarationId) (kind : Kind) :
      ∀ entry ∈ (declared start).table kind, some Term.nil ∉ entry.2.optionalTerms := by
    cases kind <;> simp [declared, table, add, addMachine, addState, addProperty, emptyFrom,
      Declaration.optionalTerms, Term.nil]
  have hfirst : (declared 0).Writable :=
    ⟨fun kind => by cases kind <;> decide, fun kind => by cases kind <;> decide, by decide,
      hpresent 0⟩
  have hsecond : (declared 7).Writable :=
    ⟨fun kind => by cases kind <;> decide, fun kind => by cases kind <;> decide, by decide,
      hpresent 7⟩
  have hisomorphic : (declared 0).Isomorphic Eq (declared 7) := by
    refine ⟨fun _ id => id + 7, fun kind => ?_⟩
    cases kind <;> simp [declared, table, add, addMachine, addState, addProperty, emptyFrom,
      Declaration.Carried, Reference.carry, Term.alike_eq_iff]
  exact ⟨hfirst, hsecond, hisomorphic,
    (to_model_eq_iff_isomorphic hfirst hsecond "Main" (.named "P")).2.2 hisomorphic⟩

end Program

end MachineCompiler.Source
