import MachineCompiler.Proofs.Source.Watchers
import Mathlib.Data.List.Nodup
import Mathlib.Logic.Relation

/-!
# Identifiers over the life of a program

A program lives by additions, removals, the step to its implemented part, and new beginnings that go
on with its identifiers. Over all kinds no identifier is ever given twice, and a declaration refers
only to earlier ones. So the search for an owner, which hands the question on from declaration to
declaration without looking at identifiers, comes to an end for every reference.
-/

namespace MachineCompiler.Source.Program

open Relation

/-! ## Lives of programs -/

/-- The programs that a sequence of operations leads to, with the number of additions in it and the
references that these returned. A declaration refers to what was returned before, whether that is
still there or not. -/
inductive Evolved : Nat → List Reference → Program → Prop where
  | start : Evolved 0 [] .empty
  | add {additions : Nat} {issued : List Reference} {program : Program} {declaration : Declaration}
      (hevolved : Evolved additions issued program)
      (hissued : ∀ reference ∈ declaration.references, reference ∈ issued) :
      Evolved (additions + 1) (issued ++ [⟨declaration.kind, program.nextId⟩])
        (program.add declaration)
  | remove {additions : Nat} {issued : List Reference} {program : Program} {reference : Reference}
      (hevolved : Evolved additions issued program) :
      Evolved additions issued (program.remove reference)
  | implementation {additions : Nat} {issued : List Reference} {program : Program}
      (hevolved : Evolved additions issued program) :
      Evolved additions issued program.implementation
  | emptyLike {additions : Nat} {issued : List Reference} {program : Program}
      (hevolved : Evolved additions issued program) :
      Evolved additions issued program.emptyLike

/-- The identifiers of the declarations of all kinds. -/
def ids (program : Program) : List DeclarationId :=
  kinds.flatMap program.idsOf

/-- Identifiers grow in the order of every table, no two kinds share one, and references go back. -/
structure Numbered (program : Program) : Prop where
  ordered : program.Ordered
  increasing : ∀ kind, (program.idsOf kind).Pairwise (· < ·)
  apart : ∀ kind other id, id ∈ program.idsOf kind → id ∈ program.idsOf other → kind = other

variable {program : Program} {declaration : Declaration} {kind : Kind} {id : DeclarationId}
  {reference other last : Reference} {additions : Nat} {issued : List Reference}

theorem Ordered.lt_next_id (h : program.Ordered) (hmem : id ∈ program.idsOf kind) :
    id < program.nextId := by
  rw [ids_of_eq] at hmem
  obtain ⟨entry, hentry, rfl⟩ := List.mem_map.1 hmem
  exact h.fresh kind entry hentry

theorem ids_of_add :
    (program.add declaration).idsOf kind =
      program.idsOf kind ++ if declaration.kind = kind then [program.nextId] else [] := by
  rw [ids_of_eq, ids_of_eq, table_add, Table.ids, List.map_append]
  split <;> rfl

theorem ids_of_restrict {keep : Reference → Bool} :
    (program.restrict keep).idsOf kind =
      (program.idsOf kind).filter fun id => keep ⟨kind, id⟩ := by
  rw [ids_of_eq, ids_of_eq, table_restrict, Table.ids, Table.ids, List.filter_map]
  rfl

/-- A new beginning keeps nothing but the counter. -/
theorem empty_like_eq_restrict : program.emptyLike = program.restrict fun _ => false := by
  simp [emptyLike, emptyFrom, restrict]

theorem numbered_empty : Numbered .empty where
  ordered := Built.empty.ordered
  increasing kind := by cases kind <;> exact .nil
  apart kind other id hmem := by cases kind <;> cases hmem

/-- What is kept keeps its number. -/
theorem Numbered.restrict (h : program.Numbered) (keep : Reference → Bool) :
    (program.restrict keep).Numbered where
  ordered := h.ordered.restrict keep
  increasing kind := by
    rw [ids_of_restrict]
    exact (h.increasing kind).filter _
  apart kind other id hmem hother := by
    rw [ids_of_restrict, List.mem_filter] at hmem hother
    exact h.apart kind other id hmem.1 hother.1

/-- The identifier of a new declaration is above all others, of its kind and of other kinds. -/
theorem Numbered.add (h : program.Numbered)
    (hearlier : ∀ reference ∈ declaration.references, reference.id < program.nextId) :
    (program.add declaration).Numbered where
  ordered := h.ordered.add hearlier
  increasing kind := by
    rw [ids_of_add]
    split
    · refine List.pairwise_append.2 ⟨h.increasing kind, List.pairwise_singleton _ _, ?_⟩
      intro id hid new hnew
      rw [List.mem_singleton.1 hnew]
      exact h.ordered.lt_next_id hid
    · rw [List.append_nil]
      exact h.increasing kind
  apart kind other id hmem hother := by
    have hcases {kind : Kind} (hmem : id ∈ (program.add declaration).idsOf kind) :
        id ∈ program.idsOf kind ∨ id = program.nextId ∧ kind = declaration.kind := by
      rw [ids_of_add, List.mem_append] at hmem
      refine hmem.imp_right fun hnew => ?_
      by_cases hkind : declaration.kind = kind
      · rw [if_pos hkind] at hnew
        exact ⟨List.mem_singleton.1 hnew, hkind.symm⟩
      · rw [if_neg hkind] at hnew
        cases hnew
    obtain hold | ⟨hid, hkind⟩ := hcases hmem <;> obtain hold' | ⟨hid', hkind'⟩ := hcases hother
    · exact h.apart kind other id hold hold'
    · exact absurd (h.ordered.lt_next_id hold) (hid' ▸ Nat.lt_irrefl _)
    · exact absurd (h.ordered.lt_next_id hold') (hid ▸ Nat.lt_irrefl _)
    · rw [hkind, hkind']

/-- The counter has counted the additions, and all references that were returned are below it. -/
structure Counted (additions : Nat) (issued : List Reference) (program : Program) : Prop where
  numbered : program.Numbered
  count : program.nextId = additions
  below : ∀ reference ∈ issued, reference.id < program.nextId

theorem Counted.restrict (h : program.Counted additions issued) (keep : Reference → Bool) :
    (program.restrict keep).Counted additions issued :=
  ⟨h.numbered.restrict keep, h.count, h.below⟩

theorem Counted.add (h : program.Counted additions issued)
    (hissued : ∀ reference ∈ declaration.references, reference ∈ issued) :
    (program.add declaration).Counted (additions + 1)
      (issued ++ [⟨declaration.kind, program.nextId⟩]) where
  numbered := h.numbered.add fun reference hreference =>
    h.below reference (hissued reference hreference)
  count := by rw [next_id_add, h.count]
  below reference hreference := by
    rw [next_id_add]
    obtain hold | hnew := List.mem_append.1 hreference
    · exact Nat.lt_succ_of_lt (h.below reference hold)
    · rw [List.mem_singleton.1 hnew]
      exact Nat.lt_succ_self _

/-- All operations besides additions keep a part of the program. -/
theorem Evolved.counted (h : Evolved additions issued program) :
    program.Counted additions issued := by
  induction h with
  | start => exact ⟨numbered_empty, rfl, List.forall_mem_nil _⟩
  | add _ hissued ih => exact ih.add hissued
  | remove _ ih =>
    rw [remove_eq_restrict]
    exact ih.restrict _
  | implementation _ ih =>
    rw [implementation_eq_of_ordered ih.numbered.ordered]
    exact ih.restrict _
  | emptyLike _ ih =>
    rw [empty_like_eq_restrict]
    exact ih.restrict _

theorem Numbered.nodup_ids (h : program.Numbered) : program.ids.Nodup := by
  have hkinds : kinds.Nodup := by decide
  rw [ids, List.nodup_flatMap]
  refine ⟨fun kind _ => h.ordered.nodup_ids kind, hkinds.imp ?_⟩
  intro kind other hne id hid hid'
  exact hne (h.apart kind other id hid hid')

theorem Numbered.lt_next_id (h : program.Numbered) (hid : id ∈ program.ids) :
    id < program.nextId := by
  obtain ⟨kind, -, hmem⟩ := List.mem_flatMap.1 hid
  exact h.ordered.lt_next_id hmem

/-! ## The search for an owner -/

/-- What is known about an owner after one step: who it is, if there is one, or that it is the owner
of what another reference leads to. -/
inductive Hint where
  | owner (found : Option DeclarationId)
  | ownerOf (reference : Reference)

/-- One step of the search. Transitions and handlers hand the question on to the state that they
start from, and properties to their target, whatever its identifier. -/
def hint (program : Program) : Reference → Hint
  | ⟨.machine, id⟩ => .owner (some id)
  | ⟨.state, id⟩ => .owner ((program.states.get? id).map State.owner)
  | ⟨.variable, id⟩ => .owner ((program.machineVariables.get? id).map Variable.owner)
  | ⟨.function, id⟩ => .owner ((program.functions.get? id).bind Function.owner)
  | ⟨.anonFunction, id⟩ => .owner ((program.anonFunctions.get? id).bind AnonFunction.owner)
  | ⟨.transition, id⟩ =>
    match program.transitions.get? id with
    | some transition => .ownerOf ⟨.state, transition.source⟩
    | none => .owner none
  | ⟨.handler, id⟩ =>
    match program.handlers.get? id with
    | some handler => .ownerOf ⟨.state, handler.source⟩
    | none => .owner none
  | ⟨.property, id⟩ =>
    match program.properties.get? id with
    | some property => .ownerOf property.target
    | none => .owner none
  | ⟨.typeDef, _⟩ | ⟨.enumTypeDef, _⟩ | ⟨.modelType, _⟩ | ⟨.event, _⟩ => .owner none

/-- The search from a reference ends with an owner, or with the answer that there is none. -/
inductive Finds (program : Program) : Reference → Option DeclarationId → Prop where
  | here {reference : Reference} {found : Option DeclarationId}
      (hhint : program.hint reference = .owner found) : Finds program reference found
  | there {reference other : Reference} {found : Option DeclarationId}
      (hhint : program.hint reference = .ownerOf other) (hfinds : Finds program other found) :
      Finds program reference found

/-- The property that the first reference leads to is attached to what the second one refers to. -/
def Annotates (program : Program) (reference target : Reference) : Prop :=
  reference.kind = .property ∧
    ∃ property, program.properties.get? reference.id = some property ∧ property.target = target

/-- A search has one result. -/
theorem Finds.unique {found found' : Option DeclarationId} (h : program.Finds reference found)
    (h' : program.Finds reference found') : found = found' := by
  induction h with
  | here hhint =>
    cases h' with
    | here hhint' => exact Hint.owner.inj (hhint.symm.trans hhint')
    | there hhint' => cases hhint.symm.trans hhint'
  | there hhint _ ih =>
    cases h' with
    | here hhint' => cases hhint.symm.trans hhint'
    | there hhint' hfinds =>
      obtain rfl := Hint.ownerOf.inj (hhint.symm.trans hhint')
      exact ih hfinds

theorem owner_state_eq :
    program.owner? ⟨.state, id⟩ = (program.states.get? id).map State.owner := by
  rw [owner?]

/-- What a step says of the owner is right. -/
theorem owner_eq_of_hint (h : program.Ordered) :
    program.owner? reference =
      match program.hint reference with
      | .owner found => found
      | .ownerOf other => program.owner? other := by
  obtain ⟨kind, id⟩ := reference
  cases kind with
  | machine | state | «variable» | function | anonFunction => rw [owner?, hint]
  | typeDef | enumTypeDef | modelType | event => rw [owner?, hint] <;> simp
  | transition =>
    rw [owner?, hint]
    cases program.transitions.get? id with
    | none => rfl
    | some transition => exact owner_state_eq.symm
  | handler =>
    rw [owner?, hint]
    cases program.handlers.get? id with
    | none => rfl
    | some handler => exact owner_state_eq.symm
  | property =>
    rw [hint]
    cases hget : program.properties.get? id with
    | none => rw [owner?, hget]
    | some property => exact owner_property h (Table.mem_of_get hget)

/-- A question is handed on to what a declaration of the program refers to. -/
theorem exists_of_hint (hhint : program.hint reference = .ownerOf other) :
    ∃ declaration, (reference.id, declaration) ∈ program.table reference.kind ∧
      other ∈ declaration.references := by
  obtain ⟨kind, id⟩ := reference
  cases kind with
  | machine | state | «variable» | function | anonFunction | typeDef | enumTypeDef | modelType
  | event => cases hhint
  | transition | handler | property =>
    rw [hint] at hhint
    split at hhint <;> cases hhint
    exact ⟨_, List.mem_map.2 ⟨_, Table.mem_of_get ‹_›, rfl⟩, List.mem_cons_self⟩

/-- A question is handed on to an earlier declaration. -/
theorem hint_lt (h : program.Ordered) (hhint : program.hint reference = .ownerOf other) :
    other.id < reference.id := by
  obtain ⟨declaration, hmem, hreference⟩ := exists_of_hint hhint
  exact h.earlier _ _ hmem other hreference

/-- The search ends with the owner, since identifiers get smaller from step to step. -/
theorem finds_owner (h : program.Ordered) (reference : Reference) :
    program.Finds reference (program.owner? reference) := by
  obtain ⟨kind, id⟩ := reference
  induction id using Nat.strongRecOn generalizing kind with
  | ind id ih =>
    have howner := @owner_eq_of_hint program ⟨kind, id⟩ h
    cases hhint : program.hint ⟨kind, id⟩ with
    | owner found =>
      rw [hhint] at howner
      rw [howner]
      exact .here hhint
    | ownerOf other =>
      rw [hhint] at howner
      rw [howner]
      exact .there hhint (ih other.id (hint_lt h hhint) other.kind)

/-! ## Chains of properties -/

theorem hint_of_annotates (h : program.Annotates reference other) :
    program.hint reference = .ownerOf other := by
  obtain ⟨kind, id⟩ := reference
  obtain ⟨rfl, property, hget, rfl⟩ := h
  simp only [hint, hget]

/-- Along a chain of properties the owner stays the same. -/
theorem owner_eq_of_chain (h : program.Ordered)
    (hchain : ReflTransGen program.Annotates reference last) :
    program.owner? reference = program.owner? last := by
  induction hchain with
  | refl => rfl
  | tail _ hannotates ih =>
    rw [ih, owner_eq_of_hint h, hint_of_annotates hannotates]

/-- Every chain of properties has an end. -/
theorem exists_last (h : program.Ordered) (reference : Reference) :
    ∃ last, ReflTransGen program.Annotates reference last ∧
      ∀ target, ¬program.Annotates last target := by
  obtain ⟨kind, id⟩ := reference
  induction id using Nat.strongRecOn generalizing kind with
  | ind id ih =>
    by_cases hnext : ∃ target, program.Annotates ⟨kind, id⟩ target
    · obtain ⟨target, hannotates⟩ := hnext
      have hlt := hint_lt h (hint_of_annotates hannotates)
      obtain ⟨last, hchain, hlast⟩ := ih target.id hlt target.kind
      exact ⟨last, .head hannotates hchain, hlast⟩
    · exact ⟨_, .refl, fun target hannotates => hnext ⟨target, hannotates⟩⟩

/-- What is not there has no owner; only a machine is its own owner whether it is there or not. -/
theorem owner_of_not_holds (h : program.Ordered) (hkind : reference.kind ≠ .machine)
    (hholds : program.holds reference = false) : program.owner? reference = none := by
  rw [holds_eq_get, Option.isSome_eq_false_iff, Option.isNone_iff_eq_none] at hholds
  rw [show reference = ⟨reference.kind, reference.id⟩ from rfl, owner_eq h hkind, hholds]
  rfl

/-- A reference to a property where a chain ends leads nowhere. -/
theorem not_holds_of_last (h : program.Ordered) (hkind : last.kind = .property)
    (hlast : ∀ target, ¬program.Annotates last target) : program.holds last = false := by
  refine Bool.eq_false_iff.2 fun hholds => ?_
  obtain ⟨declaration, hmem⟩ := holds_iff.1 hholds
  rw [hkind] at hmem
  obtain ⟨⟨id, property⟩, hproperty, heq⟩ := List.mem_map.1 hmem
  cases heq
  exact hlast property.target ⟨hkind, property, Table.get_of_mem (h.nodup_ids .property) hproperty,
    rfl⟩

/-! ## The whole life -/

/-- Words of 32 bits tell numbers below `2 ^ 32` apart. -/
theorem nodup_words {ids : List DeclarationId} (hnodup : ids.Nodup)
    (hsmall : ∀ id ∈ ids, id < UInt32.size) : (ids.map UInt32.ofNat).Nodup := by
  refine hnodup.map_on fun id hid other hother heq => ?_
  have hnat := congrArg UInt32.toNat heq
  rwa [UInt32.toNat_ofNat_of_lt' (hsmall id hid), UInt32.toNat_ofNat_of_lt' (hsmall other hother)]
    at hnat

end MachineCompiler.Source.Program
