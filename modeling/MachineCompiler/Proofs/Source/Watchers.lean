import MachineCompiler.Proofs.Source.Isomorphism

/-!
# Watchers leave no trace in the implemented part

A watcher is a specification machine that is added to a program, with whatever it owns, while the
program is built. All later identifiers are other ones then, and a watcher may have the name of
another machine. But a declaration is owned by a specification machine exactly when it was before,
and every addition is owned by one. So the implemented part is the same up to its identifiers, and
its model is the same.
-/

namespace MachineCompiler.Source

open Engine (Fact ModuleRef)

/-! ## Looking up declarations -/

namespace Table

variable {α β : Type} {table : Table α} {key : DeclarationId}

theorem get_map {f : α → β} :
    get? (List.map (Prod.map id f) table) key = (table.get? key).map f := by
  unfold get?
  rw [List.find?_map, Option.map_map, Option.map_map]
  rfl

/-- What is kept is found as before. -/
theorem get_filter (keep : DeclarationId → Bool) (h : keep key = true) :
    get? (table.filter fun entry => keep entry.1) key = table.get? key := by
  unfold get?
  rw [List.find?_filter]
  refine congrArg (Option.map Prod.snd <| List.find? · table) (funext fun entry => ?_)
  cases hkey : entry.1 == key with
  | false => simp
  | true => simp [eq_of_beq hkey, h]

/-- What is added under another identifier makes no difference. -/
theorem get_append_ne {other : DeclarationId} {declaration : α} (h : key ≠ other) :
    get? (table ++ [(other, declaration)]) key = table.get? key := by
  simp [get?, List.find?_append, beq_eq_false_iff_ne.2 h.symm]

/-- Related declarations are found under corresponding identifiers. -/
theorem get_related {R : α → β → Prop} {rename : DeclarationId → DeclarationId} {other : Table β}
    (h : List.Forall₂ (fun entry entry' => entry'.1 = rename entry.1 ∧ R entry.2 entry'.2)
      table other)
    (hinjective : ∀ entry ∈ table, rename entry.1 = rename key → entry.1 = key) :
    Option.Rel R (table.get? key) (other.get? (rename key)) := by
  induction h with
  | nil => exact .none
  | @cons entry entry' rest rest' hentry _ ih =>
    obtain ⟨hfirst, hothers⟩ := List.forall_mem_cons.1 hinjective
    unfold get?
    rw [List.find?_cons, List.find?_cons, hentry.1]
    by_cases hkey : entry.1 = key
    · simpa [hkey] using hentry.2
    · rw [beq_eq_false_iff_ne.2 hkey, beq_eq_false_iff_ne.2 fun hsame => hkey (hfirst hsame)]
      exact ih hothers

end Table

/-- A declaration and the same one under new identifiers are of one kind. -/
theorem Declaration.Carried.kind_eq {E : Span → Span → Prop} {rename : Renaming}
    {declaration declaration' : Declaration} (h : declaration.Carried E rename declaration') :
    declaration'.kind = declaration.kind := by
  cases declaration <;> cases declaration' <;> first | rfl | exact h.elim

/-- The references of a declaration are carried with it. -/
theorem Declaration.Carried.references_eq {E : Span → Span → Prop} {rename : Renaming}
    {declaration declaration' : Declaration} (h : declaration.Carried E rename declaration') :
    declaration'.references = declaration.references.map (Reference.carry rename) := by
  cases declaration <;> cases declaration' <;> try exact h.elim
  case state.state => simp [references, Reference.carry, h.2.1]
  case variable.variable => simp [references, Reference.carry, h.2.1]
  case transition.transition => simp [references, Reference.carry, h.1, h.2.2.1]
  case function.function first second =>
    rw [references, references, h.2.1]
    cases first.owner <;> rfl
  case anonFunction.anonFunction first second =>
    rw [references, references, h.1]
    cases first.owner <;> rfl
  case handler.handler => simp [references, Reference.carry, h.1]
  case property.property => simp [references, h.1]
  all_goals rfl

namespace Program

/-! ## Owners under new identifiers -/

section Owners

variable {program : Program} {reference : Reference} {kind : Kind} {key : DeclarationId}

theorem holds_eq_get :
    program.holds reference = ((program.table reference.kind).get? reference.id).isSome := by
  rw [Bool.eq_iff_iff, holds_iff, Table.get?, Option.isSome_map, List.find?_isSome]
  simp

/-- The owner of a declaration in a program. -/
def ownerOf (program : Program) : Declaration → Option DeclarationId
  | .state declaration => some declaration.owner
  | .variable declaration => some declaration.owner
  | .transition declaration => program.owner? ⟨.state, declaration.source⟩
  | .function declaration => declaration.owner
  | .anonFunction declaration => declaration.owner
  | .handler declaration => program.owner? ⟨.state, declaration.source⟩
  | .property declaration => program.owner? declaration.target
  | .typeDef _ | .enumTypeDef _ | .modelType _ | .event _ | .machine _ => none

/-- The owner of what is under an identifier is that of the declaration there. Only a machine is
its own owner whether it is there or not. -/
theorem owner_eq (h : program.Ordered) (hkind : kind ≠ .machine) :
    program.owner? ⟨kind, key⟩ = ((program.table kind).get? key).bind program.ownerOf := by
  have htop {kind : Kind} (htop : kind ∈ [.typeDef, .enumTypeDef, .modelType, .event]) :
      program.owner? ⟨kind, key⟩ = none := by
    rw [owner?] <;> rintro rfl <;> simp at htop
  cases kind with
  | machine => contradiction
  | typeDef | enumTypeDef | modelType | event =>
    rw [htop (by decide), table, Table.get_map]
    generalize Table.get? _ key = found
    cases found <;> rfl
  | state | «variable» | function | anonFunction =>
    rw [owner?, table, Table.get_map]
    generalize Table.get? _ key = found
    cases found <;> rfl
  | transition =>
    rw [owner?, table, Table.get_map, Option.bind_map]
    refine congrArg (Option.bind _) (funext fun declaration => ?_)
    rw [Function.comp_apply, ownerOf, owner?]
  | handler =>
    rw [owner?, table, Table.get_map, Option.bind_map]
    refine congrArg (Option.bind _) (funext fun declaration => ?_)
    rw [Function.comp_apply, ownerOf, owner?]
  | property =>
    rw [table, Table.get_map]
    cases hget : program.properties.get? key with
    | none => rw [owner?, hget]; rfl
    | some declaration => exact owner_property h (Table.mem_of_get hget)

/-- The owner of what is there is a reference of an earlier declaration, or the machine itself. -/
theorem owner_le (h : program.Ordered) {owner : DeclarationId}
    (howner : program.owner? reference = some owner) : owner ≤ reference.id := by
  obtain ⟨kind, key⟩ := reference
  induction key using Nat.strongRecOn generalizing kind with
  | ind key ih =>
    by_cases hkind : kind = .machine
    · subst hkind
      rw [owner_machine] at howner
      exact Nat.le_of_eq (Option.some.inj howner).symm
    · rw [owner_eq h hkind] at howner
      obtain ⟨declaration, hget, howned⟩ := Option.bind_eq_some_iff.1 howner
      have hearlier := h.earlier kind _ (Table.mem_of_get hget)
      refine Nat.le_of_lt ?_
      cases declaration with
      | typeDef | enumTypeDef | modelType | event | machine => cases howned
      | state | «variable» =>
        cases howned
        exact hearlier _ List.mem_cons_self
      | transition | handler =>
        have hsource := hearlier _ List.mem_cons_self
        exact Nat.lt_of_le_of_lt (ih _ hsource _ howned) hsource
      | property =>
        have htarget := hearlier _ List.mem_cons_self
        exact Nat.lt_of_le_of_lt (ih _ htarget _ howned) htarget
      | function | anonFunction =>
        exact hearlier ⟨.machine, owner⟩
          (List.mem_map.2 ⟨owner, Option.mem_toList.2 howned, rfl⟩)

variable {first second : Program} {rename : DeclarationId → DeclarationId} {bound : Nat}
  {E : Span → Span → Prop}

/-- Below a bound, the declarations of the first program are found in the second one under their new
identifiers. -/
def FoundBelow (E : Span → Span → Prop) (rename : DeclarationId → DeclarationId) (bound : Nat)
    (first second : Program) : Prop :=
  ∀ kind, ∀ key < bound, Option.Rel (Declaration.Carried E fun _ => rename)
    ((first.table kind).get? key) ((second.table kind).get? (rename key))

/-- A declaration is there under its new identifier exactly when it was there. -/
theorem FoundBelow.holds (h : FoundBelow E rename bound first second)
    (hreference : reference.id < bound) :
    second.holds (reference.carry fun _ => rename) = first.holds reference := by
  rw [holds_eq_get, holds_eq_get, Reference.carry]
  have hfound := h reference.kind reference.id hreference
  generalize (first.table reference.kind).get? reference.id = found at hfound ⊢
  generalize (second.table reference.kind).get? (rename reference.id) = found' at hfound ⊢
  cases hfound <;> rfl

/-- Declarations that are found under new identifiers are owned by the machines that owned them. -/
theorem FoundBelow.owner (h : FoundBelow E rename bound first second) (hfirst : first.Ordered)
    (hsecond : second.Ordered) (hreference : reference.id < bound) :
    second.owner? (reference.carry fun _ => rename) = (first.owner? reference).map rename := by
  obtain ⟨kind, key⟩ := reference
  induction key using Nat.strongRecOn generalizing kind with
  | ind key ih =>
    rw [Reference.carry]
    by_cases hkind : kind = .machine
    · subst hkind
      rw [owner_machine, owner_machine]
      rfl
    · rw [owner_eq hfirst hkind, owner_eq hsecond hkind]
      have hfound := h kind key hreference
      cases hget : (first.table kind).get? key with
      | none =>
        rw [hget] at hfound
        cases hget' : (second.table kind).get? (rename key) with
        | none => rfl
        | some declaration' => rw [hget'] at hfound; cases hfound
      | some declaration =>
        have hearlier := hfirst.earlier kind _ (Table.mem_of_get hget)
        rw [hget] at hfound
        cases hget' : (second.table kind).get? (rename key) with
        | none => rw [hget'] at hfound; cases hfound
        | some declaration' =>
          rw [hget'] at hfound
          cases hfound with
          | some hcarried =>
            have hreferred (reference : Reference) (hmem : reference ∈ declaration.references) :
                second.owner? (reference.carry fun _ => rename) =
                  (first.owner? reference).map rename :=
              ih _ (hearlier reference hmem) _ (Nat.lt_trans (hearlier reference hmem) hreference)
            show second.ownerOf declaration' = (first.ownerOf declaration).map rename
            cases declaration <;> cases declaration' <;> try exact hcarried.elim
            case state.state => exact congrArg some hcarried.2.1
            case variable.variable => exact congrArg some hcarried.2.1
            case function.function => exact hcarried.2.1
            case anonFunction.anonFunction => exact hcarried.1
            case transition.transition declaration declaration' =>
              rw [ownerOf, hcarried.1]
              exact hreferred ⟨.state, declaration.source⟩ List.mem_cons_self
            case handler.handler declaration declaration' =>
              rw [ownerOf, hcarried.1]
              exact hreferred ⟨.state, declaration.source⟩ List.mem_cons_self
            case property.property declaration declaration' =>
              rw [ownerOf, hcarried.1]
              exact hreferred declaration.target List.mem_cons_self
            all_goals rfl

/-- A specification machine owns what it owned before, and nothing else of it. -/
theorem FoundBelow.spec_owned (h : FoundBelow E rename bound first second) (hfirst : first.Ordered)
    (hsecond : second.Ordered) (hreference : reference.id < bound) :
    second.isSpecOwned (reference.carry fun _ => rename) = first.isSpecOwned reference := by
  unfold isSpecOwned
  rw [h.owner hfirst hsecond hreference]
  cases howner : first.owner? reference with
  | none => rfl
  | some owner =>
    have hfound := h .machine owner (Nat.lt_of_le_of_lt (owner_le hfirst howner) hreference)
    rw [table, table, Table.get_map, Table.get_map] at hfound
    show (second.machines.get? (rename owner)).any _ = (first.machines.get? owner).any _
    cases hget : first.machines.get? owner <;>
      cases hget' : second.machines.get? (rename owner) <;> rw [hget, hget'] at hfound <;>
      cases hfound
    · rename_i hcarried
      simp only [Option.any_some, Machine.isSpec]
      rw [hcarried.2.1]

end Owners

/-! ## Programs with watchers -/

/-- The second program is built like the first one, with watchers and declarations that belong to
them added in between. A declaration of the first program is called by `rename` in the second one,
and refers there to what it refers to in the first one. -/
inductive Watched (rename : DeclarationId → DeclarationId) :
    Program → Program → List DeclarationId → Prop where
  | start : Watched rename .empty .empty []
  | keep {first second : Program} {watchers : List DeclarationId}
      {declaration declaration' : Declaration} (hwatched : Watched rename first second watchers)
      (hearlier : ∀ reference ∈ declaration.references, reference.id < first.nextId)
      (hname : rename first.nextId = second.nextId)
      (hcarried : declaration.Carried Eq (fun _ => rename) declaration') :
      Watched rename (first.add declaration) (second.add declaration') watchers
  | watcher {first second : Program} {watchers : List DeclarationId} {machine : Machine}
      (hwatched : Watched rename first second watchers) (hspec : machine.isSpec = true) :
      Watched rename first (second.add (.machine machine)) (second.nextId :: watchers)
  | owned {first second : Program} {watchers : List DeclarationId} {declaration : Declaration}
      {owner : DeclarationId} (hwatched : Watched rename first second watchers)
      (hearlier : ∀ reference ∈ declaration.references, reference.id < second.nextId)
      (hwatcher : owner ∈ watchers)
      (howner : (second.add declaration).owner? ⟨declaration.kind, second.nextId⟩ = some owner) :
      Watched rename first (second.add declaration) watchers

/-- The identifier is the new one of a declaration of the program. -/
def renames (program : Program) (rename : DeclarationId → DeclarationId) (key : DeclarationId) :
    Bool :=
  (List.range program.nextId).any (rename · == key)

/-- What holds while a program is built with watchers: old and new identifiers correspond, the
declarations under the new ones are those of the first program, and all others belong to watchers. -/
structure Overlaid (rename : DeclarationId → DeclarationId) (first second : Program)
    (watchers : List DeclarationId) : Prop where
  ordered : first.Ordered
  ordered' : second.Ordered
  below : ∀ key < first.nextId, rename key < second.nextId
  injective : ∀ key < first.nextId, ∀ other < first.nextId, rename key = rename other → key = other
  carried : ∀ kind, List.Forall₂
    (fun entry entry' =>
      entry'.1 = rename entry.1 ∧ entry.2.Carried Eq (fun _ => rename) entry'.2)
    (first.table kind) ((second.table kind).filter fun entry => first.renames rename entry.1)
  owned : ∀ kind, ∀ entry ∈ second.table kind, first.renames rename entry.1 = false →
    ∃ owner ∈ watchers, second.owner? ⟨kind, entry.1⟩ = some owner
  specs : ∀ watcher ∈ watchers, ∃ machine, (watcher, machine) ∈ second.machines ∧
    machine.isSpec = true

section

variable {rename : DeclarationId → DeclarationId} {first second : Program}
  {watchers : List DeclarationId} {declaration declaration' : Declaration}

theorem renames_iff {program : Program} {key : DeclarationId} :
    program.renames rename key = true ↔ ∃ old < program.nextId, rename old = key := by
  simp [renames]

theorem lt_next_id_add {program : Program} {key : DeclarationId} :
    key < (program.add declaration).nextId ↔ key < program.nextId ∨ key = program.nextId := by
  rw [next_id_add]
  exact Nat.lt_succ_iff_lt_or_eq

/-- An addition changes nothing about identifiers that were there before. -/
theorem renames_add (hname : rename first.nextId = second.nextId) {key : DeclarationId}
    (hkey : key < second.nextId) :
    (first.add declaration).renames rename key = first.renames rename key := by
  rw [Bool.eq_iff_iff, renames_iff, renames_iff]
  constructor
  · rintro ⟨old, hold, rfl⟩
    obtain hlt | rfl := lt_next_id_add.1 hold
    · exact ⟨old, hlt, rfl⟩
    · exact absurd hname (Nat.ne_of_lt hkey)
  · rintro ⟨old, hold, hsame⟩
    exact ⟨old, lt_next_id_add.2 (.inl hold), hsame⟩

theorem renames_add_self (hname : rename first.nextId = second.nextId) :
    (first.add declaration).renames rename second.nextId = true :=
  renames_iff.2 ⟨first.nextId, lt_next_id_add.2 (.inr rfl), hname⟩

/-- An addition changes no owner of what was there. -/
theorem owner_add {program : Program} (h : program.Ordered)
    (hearlier : ∀ reference ∈ declaration.references, reference.id < program.nextId)
    {reference : Reference} (hreference : reference.id < program.nextId) :
    (program.add declaration).owner? reference = program.owner? reference := by
  -- Under the same identifiers every declaration is carried to itself.
  have hself (declaration : Declaration) : declaration.Carried Eq (fun _ => id) declaration := by
    have hterm (value : Option Term) : Option.Rel (Term.Alike Eq) value value := by
      cases value with
      | none => exact .none
      | some term => exact .some ((Term.alike_eq_iff _ _).2 rfl)
    cases declaration <;>
      simp [Declaration.Carried, Term.alike_eq_iff, hterm, Reference.carry]
  have hfound : FoundBelow Eq id program.nextId program (program.add declaration) := by
    intro kind key hkey
    have hsame : ((program.add declaration).table kind).get? key = (program.table kind).get? key := by
      rw [table_add]
      split
      · exact Table.get_append_ne (Nat.ne_of_lt hkey)
      · rw [List.append_nil]
    rw [id_eq, hsame]
    cases (program.table kind).get? key with
    | none => exact .none
    | some declaration => exact .some (hself declaration)
  have howner := hfound.owner h (h.add hearlier) hreference
  rwa [Option.map_id, id_eq] at howner

theorem mem_machines_add {program : Program} {entry : DeclarationId × Machine}
    (h : entry ∈ program.machines) : entry ∈ (program.add declaration).machines := by
  cases declaration <;> first | exact h | exact List.mem_append_left _ h

namespace Overlaid

/-- The declarations of the first program are found under their new identifiers. -/
theorem found (h : Overlaid rename first second watchers) :
    FoundBelow Eq rename first.nextId first second := by
  intro kind key hkey
  have hrenames : first.renames rename (rename key) = true := renames_iff.2 ⟨key, hkey, rfl⟩
  rw [← Table.get_filter (first.renames rename) hrenames]
  exact Table.get_related (h.carried kind) fun entry hentry hsame =>
    h.injective entry.1 (h.ordered.fresh kind entry hentry) key hkey hsame

theorem spec_owned_eq (h : Overlaid rename first second watchers) (reference : Reference)
    (hreference : reference.id < first.nextId) :
    second.isSpecOwned (reference.carry fun _ => rename) = first.isSpecOwned reference :=
  h.found.spec_owned h.ordered h.ordered' hreference

/-- What is not a declaration of the first program is owned by a specification machine. -/
theorem spec_owned (h : Overlaid rename first second watchers) {kind : Kind}
    {entry : DeclarationId × Declaration} (hentry : entry ∈ second.table kind)
    (hadded : first.renames rename entry.1 = false) :
    second.isSpecOwned ⟨kind, entry.1⟩ = true := by
  obtain ⟨owner, hwatcher, howner⟩ := h.owned kind entry hentry hadded
  obtain ⟨machine, hlisted, hspec⟩ := h.specs owner hwatcher
  rw [isSpecOwned, howner, Option.any_some,
    Table.get_of_mem (h.ordered'.nodup_ids .machine) hlisted]
  exact hspec

/-- New identifiers are not those of later additions. -/
theorem not_renames (h : Overlaid rename first second watchers) :
    first.renames rename second.nextId = false := by
  refine Bool.eq_false_iff.2 fun hrenames => ?_
  obtain ⟨old, hold, hsame⟩ := renames_iff.1 hrenames
  exact Nat.ne_of_lt (h.below old hold) hsame

theorem start : Overlaid rename .empty .empty [] where
  ordered := Built.empty.ordered
  ordered' := Built.empty.ordered
  below key hkey := absurd hkey (Nat.not_lt_zero key)
  injective key hkey := absurd hkey (Nat.not_lt_zero key)
  carried kind := by cases kind <;> exact .nil
  owned kind entry hentry := by cases kind <;> cases hentry
  specs := List.forall_mem_nil _

/-- A declaration that belongs to a watcher is added. -/
theorem insert (h : Overlaid rename first second watchers) {watchers' : List DeclarationId}
    (hearlier : ∀ reference ∈ declaration.references, reference.id < second.nextId)
    (howned : ∃ owner ∈ watchers',
      (second.add declaration).owner? ⟨declaration.kind, second.nextId⟩ = some owner)
    (hmore : ∀ watcher ∈ watchers, watcher ∈ watchers')
    (hspecs : ∀ watcher ∈ watchers', ∃ machine, (watcher, machine) ∈ (second.add declaration).machines ∧
      machine.isSpec = true) : Overlaid rename first (second.add declaration) watchers' where
  ordered := h.ordered
  ordered' := h.ordered'.add hearlier
  below key hkey := next_id_add ▸ Nat.lt_succ_of_lt (h.below key hkey)
  injective := h.injective
  carried kind := by
    have hnew : List.filter (fun entry => first.renames rename entry.1)
        (if declaration.kind = kind then [(second.nextId, declaration)] else []) = [] := by
      split <;> simp [h.not_renames]
    rw [table_add, List.filter_append, hnew, List.append_nil]
    exact h.carried kind
  owned kind entry hentry hadded := by
    rw [table_add, List.mem_append] at hentry
    obtain hold | hnew := hentry
    · obtain ⟨owner, hwatcher, howner⟩ := h.owned kind entry hold hadded
      refine ⟨owner, hmore owner hwatcher, ?_⟩
      rw [owner_add h.ordered' hearlier (h.ordered'.fresh kind entry hold), howner]
    · split at hnew
      · rename_i hkind
        obtain rfl := List.mem_singleton.1 hnew
        exact hkind ▸ howned
      · cases hnew
  specs := hspecs

/-- What a declaration refers to is there under its new identifiers. -/
theorem carried_earlier (h : Overlaid rename first second watchers)
    (hearlier : ∀ reference ∈ declaration.references, reference.id < first.nextId)
    (hcarried : declaration.Carried Eq (fun _ => rename) declaration') :
    ∀ reference ∈ declaration'.references, reference.id < second.nextId := by
  intro reference hreference
  rw [hcarried.references_eq] at hreference
  obtain ⟨old, hold, rfl⟩ := List.mem_map.1 hreference
  exact h.below old.id (hearlier old hold)

/-- A declaration is added to both programs. -/
theorem keep (h : Overlaid rename first second watchers)
    (hearlier : ∀ reference ∈ declaration.references, reference.id < first.nextId)
    (hname : rename first.nextId = second.nextId)
    (hcarried : declaration.Carried Eq (fun _ => rename) declaration') :
    Overlaid rename (first.add declaration) (second.add declaration') watchers where
  ordered := h.ordered.add hearlier
  ordered' := h.ordered'.add (h.carried_earlier hearlier hcarried)
  below key hkey := by
    rw [next_id_add]
    obtain hlt | rfl := lt_next_id_add.1 hkey
    · exact Nat.lt_succ_of_lt (h.below key hlt)
    · exact hname ▸ Nat.lt_succ_self _
  injective key hkey other hother hsame := by
    obtain hlt | rfl := lt_next_id_add.1 hkey <;> obtain hlt' | rfl := lt_next_id_add.1 hother
    · exact h.injective key hlt other hlt' hsame
    · exact absurd (hsame.trans hname) (Nat.ne_of_lt (h.below key hlt))
    · exact absurd (hsame.symm.trans hname) (Nat.ne_of_lt (h.below other hlt'))
    · rfl
  carried kind := by
    have hold : (second.table kind).filter
        (fun entry => (first.add declaration).renames rename entry.1) =
          (second.table kind).filter fun entry => first.renames rename entry.1 :=
      List.filter_congr fun entry hentry =>
        renames_add hname (h.ordered'.fresh kind entry hentry)
    rw [table_add, table_add, List.filter_append, hold, hcarried.kind_eq]
    refine List.rel_append (h.carried kind) ?_
    split
    · rw [List.filter_singleton]
      simpa [renames_add_self hname] using ⟨hname.symm, hcarried⟩
    · exact .nil
  owned kind entry hentry hadded := by
    rw [table_add, List.mem_append] at hentry
    obtain hold | hadd := hentry
    · have hfresh := h.ordered'.fresh kind entry hold
      rw [renames_add hname hfresh] at hadded
      rw [owner_add h.ordered' (h.carried_earlier hearlier hcarried) hfresh]
      exact h.owned kind entry hold hadded
    · split at hadd
      · obtain rfl := List.mem_singleton.1 hadd
        rw [renames_add_self hname] at hadded
        contradiction
      · cases hadd
  specs watcher hwatcher := by
    obtain ⟨machine, hlisted, hspec⟩ := h.specs watcher hwatcher
    exact ⟨machine, mem_machines_add hlisted, hspec⟩

end Overlaid

/-- Programs built with watchers are overlaid. -/
theorem Watched.overlaid (h : Watched rename first second watchers) :
    Overlaid rename first second watchers := by
  induction h with
  | start => exact .start
  | keep _ hearlier hname hcarried ih => exact ih.keep hearlier hname hcarried
  | @watcher first second watchers machine _ hspec ih =>
    refine ih.insert (List.forall_mem_nil _) ⟨second.nextId, List.mem_cons_self, owner_machine⟩
      (fun watcher hwatcher => List.mem_cons_of_mem _ hwatcher) fun watcher hwatcher => ?_
    obtain rfl | hold := List.mem_cons.1 hwatcher
    · exact ⟨machine, List.mem_append_right _ List.mem_cons_self, hspec⟩
    · obtain ⟨machine, hlisted, hspec⟩ := ih.specs watcher hold
      exact ⟨machine, mem_machines_add hlisted, hspec⟩
  | owned _ hearlier hwatcher howner ih =>
    refine ih.insert hearlier ⟨_, hwatcher, howner⟩ (fun _ hmem => hmem) fun watcher hmem => ?_
    obtain ⟨machine, hlisted, hspec⟩ := ih.specs watcher hmem
    exact ⟨machine, mem_machines_add hlisted, hspec⟩

/-! ## The implemented parts -/

namespace Overlaid

/-- The implemented part of the second program is that of the first one under new identifiers. -/
theorem implementation_carries (h : Overlaid rename first second watchers) :
    first.implementation.Carries Eq (fun _ => rename) second.implementation := by
  intro kind
  rw [implementation_eq_of_ordered h.ordered, implementation_eq_of_ordered h.ordered',
    table_restrict, table_restrict]
  -- What is left of the second program is left of its part that comes from the first one.
  have hpart : (second.table kind).filter (fun entry => !second.isSpecOwned ⟨kind, entry.1⟩) =
      ((second.table kind).filter fun entry => first.renames rename entry.1).filter
        fun entry => !second.isSpecOwned ⟨kind, entry.1⟩ := by
    rw [List.filter_filter]
    refine List.filter_congr fun entry hentry => ?_
    cases hrenames : first.renames rename entry.1 with
    | false => rw [h.spec_owned hentry hrenames]; rfl
    | true => rw [Bool.and_true]
  have hkept : ∀ ⦃entry entry' : DeclarationId × Declaration⦄,
      (entry ∈ first.table kind ∧
          entry' ∈ (second.table kind).filter fun entry => first.renames rename entry.1) ∧
        entry'.1 = rename entry.1 ∧ entry.2.Carried Eq (fun _ => rename) entry'.2 →
      (((!first.isSpecOwned ⟨kind, entry.1⟩) = true) ↔
        (!second.isSpecOwned ⟨kind, entry'.1⟩) = true) := by
    rintro entry entry' ⟨⟨hentry, -⟩, hid, -⟩
    have howned : second.isSpecOwned ⟨kind, rename entry.1⟩ = first.isSpecOwned ⟨kind, entry.1⟩ :=
      h.spec_owned_eq ⟨kind, entry.1⟩ (h.ordered.fresh kind entry hentry)
    rw [hid, howned]
  rw [hpart]
  exact (List.rel_filter hkept (forall_two_mem (h.carried kind))).imp fun _ _ => And.right

/-- What a declaration of the implemented part refers to is implemented under its new identifier
exactly when it was implemented. -/
theorem implementation_leads_alike (h : Overlaid rename first second watchers) :
    LeadsAlike (fun _ => rename) first.implementation second.implementation := by
  rw [implementation_eq_of_ordered h.ordered, implementation_eq_of_ordered h.ordered']
  intro kind entry hentry reference hreference
  rw [table_restrict, List.mem_filter] at hentry
  have hbelow : reference.id < first.nextId :=
    Nat.lt_trans (h.ordered.earlier kind entry hentry.1 reference hreference)
      (h.ordered.fresh kind entry hentry.1)
  rw [Bool.eq_iff_iff, holds_restrict, holds_restrict, h.found.holds hbelow,
    h.spec_owned_eq _ hbelow]

/-- The implemented parts have the same facts. -/
theorem implementation_facts (h : Overlaid rename first second watchers) :
    second.implementation.facts = first.implementation.facts := by
  have hfirst : first.implementation.Ordered := by
    rw [implementation_eq_of_ordered h.ordered]
    exact h.ordered.restrict _
  have hsecond : second.implementation.Ordered := by
    rw [implementation_eq_of_ordered h.ordered']
    exact h.ordered'.restrict _
  exact (Fact.all_alike_eq_iff.1 (h.implementation_carries.facts_alike rfl hfirst.nodup
    hsecond.nodup h.implementation_leads_alike)).symm

end Overlaid

/-- Watchers and what belongs to them make no difference to the model of the implemented part. -/
theorem implementation_ignores_watchers (h : Watched rename first second watchers) (name : String)
    (domain : ModuleRef) :
    second.implementation.toModel name domain = first.implementation.toModel name domain := by
  rw [toModel, toModel, h.overlaid.implementation_facts]

/-- A machine with a state and a property of the state, with a watcher of the same name added before
them and its own state and property in between. -/
theorem implementation_ignores_watchers_of_namesake :
    let program : Program :=
      ((Program.empty.add (.machine ⟨"Main", .real, none, .unknown⟩)).add
        (.state ⟨["Run"], 0, none, none, .unknown⟩)).add
        (.property ⟨⟨.state, 1⟩, "hot", .nil, .unknown⟩)
    let watched : Program :=
      (((((Program.empty.add (.machine ⟨"Main", .spec, none, .unknown⟩)).add
        (.machine ⟨"Main", .real, none, .unknown⟩)).add
        (.state ⟨["Run"], 0, none, none, .unknown⟩)).add
        (.state ⟨["Run"], 1, none, none, .unknown⟩)).add
        (.property ⟨⟨.state, 2⟩, "cold", .nil, .unknown⟩)).add
        (.property ⟨⟨.state, 3⟩, "hot", .nil, .unknown⟩)
    Watched (2 * · + 1) program watched [0] ∧
      watched.implementation.toModel "Main" (.named "P") =
        program.implementation.toModel "Main" (.named "P") := by
  intro program watched
  have hwatched : Watched (2 * · + 1) program watched [0] := by
    have hstart : Watched (2 * · + 1) .empty
        (Program.empty.add (.machine ⟨"Main", .spec, none, .unknown⟩)) [0] :=
      Watched.start.watcher rfl
    have hmachine : Watched (2 * · + 1)
        (Program.empty.add (.machine ⟨"Main", .real, none, .unknown⟩))
        ((Program.empty.add (.machine ⟨"Main", .spec, none, .unknown⟩)).add
          (.machine ⟨"Main", .real, none, .unknown⟩)) [0] :=
      hstart.keep (by decide) rfl ⟨rfl, rfl, .none, rfl⟩
    have hstate : Watched (2 * · + 1)
        ((Program.empty.add (.machine ⟨"Main", .real, none, .unknown⟩)).add
          (.state ⟨["Run"], 0, none, none, .unknown⟩))
        ((((Program.empty.add (.machine ⟨"Main", .spec, none, .unknown⟩)).add
          (.machine ⟨"Main", .real, none, .unknown⟩)).add
          (.state ⟨["Run"], 0, none, none, .unknown⟩)).add
          (.state ⟨["Run"], 1, none, none, .unknown⟩)) [0] :=
      (hmachine.owned (by decide) List.mem_cons_self (by decide +kernel)).keep (by decide) rfl
        ⟨rfl, rfl, .none, .none, rfl⟩
    exact (hstate.owned (by decide) List.mem_cons_self (by decide +kernel)).keep (by decide) rfl
      ⟨rfl, rfl, (Term.alike_eq_iff _ _).2 rfl, rfl⟩
  exact ⟨hwatched, implementation_ignores_watchers hwatched "Main" (.named "P")⟩

end

end Program

end MachineCompiler.Source
