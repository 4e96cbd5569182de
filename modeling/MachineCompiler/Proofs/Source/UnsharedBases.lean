import MachineCompiler.Proofs.Source.AliasKinds

/-!
# When a base is the alias

The first declaration of a base does not always get the base itself. A base that several
declarations share is handed out with numbers, and one of these names may be the base of a
declaration that comes later, which then is numbered in its turn. A declaration whose base nobody
shares is called by its base exactly if no other declaration is called so, and for another one to
be called so the base has to be a shared base of the same kind with numbers behind it.
-/

namespace MachineCompiler.Source

namespace AliasSupply

variable {supply : AliasSupply} {bases before : List (Reference × String)} {reference : Reference}
  {base name : String}

/-- A base with numbers behind it, one after the other. -/
def numbered (base : String) (numbers : List Nat) : String :=
  numbers.foldl candidate base

theorem numbered_concat (base : String) (numbers : List Nat) (number : Nat) :
    numbered base (numbers ++ [number]) = candidate (numbered base numbers) number :=
  List.foldl_concat ..

/-- Whoever gets an alias gets it in its turn, after the declarations before it. -/
theorem mem_allocate_all :
    (reference, name) ∈ (supply.allocateAll bases).1 ↔
      ∃ before base after, bases = before ++ (reference, base) :: after ∧
        name = ((supply.allocateAll before).2.allocate base).1 := by
  induction bases generalizing supply with
  | nil => simp [allocateAll]
  | cons entry rest ih =>
    have hserved : (supply.allocateAll (entry :: rest)).1 =
        (entry.1, (supply.allocate entry.2).1) ::
          ((supply.allocate entry.2).2.allocateAll rest).1 := rfl
    rw [hserved, List.mem_cons, ih]
    constructor
    · rintro (heq | ⟨before, base, after, rfl, rfl⟩)
      · obtain ⟨rfl, rfl⟩ := Prod.mk.inj heq
        exact ⟨[], entry.2, rest, rfl, rfl⟩
      · exact ⟨entry :: before, base, after, rfl, rfl⟩
    · rintro ⟨_ | ⟨first, before⟩, base, after, heq, rfl⟩
      · obtain ⟨rfl, rfl⟩ := List.cons.inj heq
        exact .inl rfl
      · obtain ⟨rfl, rfl⟩ := List.cons.inj heq
        exact .inr ⟨before, base, after, rfl, rfl⟩

/-- What is handed out is a candidate with a number, unless it is the base. -/
theorem exists_number (hne : (supply.allocate base).1 ≠ base) :
    ∃ number, (supply.allocate base).1 = candidate base number ∧ number ≠ 0 := by
  refine ⟨_, rfl, fun hzero => hne ?_⟩
  show candidate base (firstFree base (supply.usedOf base) supply.assigned) = base
  rw [hzero]
  rfl

/-- A base that is not handed out when it is asked for was handed out before. -/
theorem taken_of_ne (hne : ((empty.allocateAll before).2.allocate base).1 ≠ base) :
    ∃ holder, (holder, base) ∈ (empty.allocateAll before).1 := by
  have hsound : (empty.allocateAll before).2.Sound := Sound.empty.allocate_all
  have htaken : base ∈ (empty.allocateAll before).2.assigned := by
    by_contra hfree
    have hfirst : firstUntaken base (empty.allocateAll before).2.assigned = candidate base 0 :=
      first_untaken_eq hfree fun earlier hlt => absurd hlt (Nat.not_lt_zero _)
    exact hne (hsound.allocate_eq.trans hfirst)
  obtain hnone | ⟨⟨holder, _⟩, hentry, rfl⟩ := mem_assigned_allocate_all.1 htaken
  · exact absurd hnone List.not_mem_nil
  · exact ⟨holder, hentry⟩

/-- A base that is not handed out when it is asked for consists of a base with numbers behind it,
perhaps none, for which there were two requests up to then. -/
theorem numbered_of_ne (reference : Reference)
    (hne : ((empty.allocateAll before).2.allocate base).1 ≠ base) :
    ∃ first second shared numbers,
      [(first, shared), (second, shared)].Sublist (before ++ [(reference, base)]) ∧
      (∀ number ∈ numbers, number ≠ 0) ∧ base = numbered shared numbers := by
  -- Whoever was given the base had asked for it as well, or was not given its own base either. So
  -- the way back ends at two requests for the same base.
  induction hlength : before.length using Nat.strong_induction_on
    generalizing before reference base with
  | _ length ih =>
    obtain ⟨holder, hentry⟩ := taken_of_ne hne
    obtain ⟨earlier, requested, later, rfl, hname⟩ := mem_allocate_all.1 hentry
    have hholder : [(holder, requested)].Sublist ((holder, requested) :: later) :=
      (List.nil_sublist later).cons_cons _
    by_cases hsame : ((empty.allocateAll earlier).2.allocate requested).1 = requested
    · obtain rfl : base = requested := hname.trans hsame
      refine ⟨holder, reference, base, [], ?_, List.forall_mem_nil _, rfl⟩
      exact (hholder.trans (List.sublist_append_right earlier _)).append (.refl _)
    · obtain ⟨first, second, shared, numbers, hshared, hpositive, heq⟩ :=
        ih earlier.length (by simp [← hlength]) holder hsame rfl
      obtain ⟨number, hcandidate, hnumber⟩ := exists_number hsame
      refine ⟨first, second, shared, numbers ++ [number], ?_, ?_, ?_⟩
      · have hbefore := hshared.trans ((List.Sublist.refl earlier).append hholder)
        exact hbefore.trans (List.sublist_append_left _ _)
      · exact List.forall_mem_append.2 ⟨hpositive, List.forall_mem_singleton.2 hnumber⟩
      · rw [numbered_concat, ← heq]
        exact hname.trans hcandidate

end AliasSupply

namespace Program

variable {program : Program} {reference : Reference} {base : String}

/-- The base is one that two declarations of the kind share, with numbers behind it. -/
def IsNumberedShare (program : Program) (kind : Kind) (base : String) : Prop :=
  ∃ first second shared numbers, first ≠ second ∧
    (first, shared) ∈ program.basesOf kind ∧ (second, shared) ∈ program.basesOf kind ∧
    numbers ≠ [] ∧ (∀ number ∈ numbers, number ≠ 0) ∧ base = AliasSupply.numbered shared numbers

theorem nodup_bases_of (h : ∀ kind, (program.table kind).ids.Nodup) (kind : Kind) :
    ((program.basesOf kind).map Prod.fst).Nodup := by
  have heq : (program.basesOf kind).map Prod.fst =
      (program.table kind).ids.map fun id => (⟨kind, id⟩ : Reference) := by
    simp [basesOf, Table.ids, Function.comp_def]
  rw [heq]
  exact (h kind).map fun _ _ => congrArg Reference.id

/-- A declaration is given its alias after the earlier declarations of its kind. -/
theorem alias_of_turn (hnodup : ∀ kind, (program.table kind).ids.Nodup)
    (hkind : reference.kind ∈ aliasedKinds) {before after : List (Reference × String)}
    (hturn : program.basesOf reference.kind = before ++ (reference, base) :: after) :
    program.alias? reference =
      some ((AliasSupply.empty.allocateAll before).2.allocate base).1 :=
  alias_of_mem_aliases hnodup (mem_aliases_of_kind hkind
    (AliasSupply.mem_allocate_all.2 ⟨before, base, after, hturn, rfl⟩))

/-- A base that is not the alias of a declaration that has it is the alias of an earlier
declaration of the kind. -/
theorem alias_taken_of_ne (hnodup : ∀ kind, (program.table kind).ids.Nodup)
    (hlisted : (reference, base) ∈ program.aliasBases)
    (hne : program.alias? reference ≠ some base) :
    ∃ holder, program.alias? holder = some base := by
  obtain ⟨hkind, hmem⟩ := kind_of_mem_alias_bases hlisted
  obtain ⟨before, after, hturn⟩ := List.append_of_mem hmem
  rw [alias_of_turn hnodup hkind hturn] at hne
  obtain ⟨holder, hentry⟩ := AliasSupply.taken_of_ne fun heq => hne (congrArg some heq)
  have hholder : (holder, base) ∈
      (AliasSupply.empty.allocateAll (program.basesOf reference.kind)).1 := by
    rw [hturn, AliasSupply.allocate_all_append]
    exact List.mem_append_left _ hentry
  exact ⟨holder, alias_of_mem_aliases hnodup (mem_aliases_of_kind hkind hholder)⟩

/-- A base that is not the alias of a declaration that has it, and that no other one has, is a
shared base with numbers behind it. -/
theorem numbered_share_of_ne (hnodup : ∀ kind, (program.table kind).ids.Nodup)
    (hlisted : (reference, base) ∈ program.aliasBases)
    (hunshared : ∀ entry ∈ program.aliasBases, entry.2 = base → entry.1 = reference)
    (hne : program.alias? reference ≠ some base) :
    program.IsNumberedShare reference.kind base := by
  obtain ⟨hkind, hmem⟩ := kind_of_mem_alias_bases hlisted
  obtain ⟨before, after, hturn⟩ := List.append_of_mem hmem
  rw [alias_of_turn hnodup hkind hturn] at hne
  obtain ⟨first, second, shared, numbers, hshared, hpositive, heq⟩ :=
    AliasSupply.numbered_of_ne reference fun heq => hne (congrArg some heq)
  have hpair : [(first, shared), (second, shared)].Sublist (program.basesOf reference.kind) := by
    refine hshared.trans (hturn ▸ (List.Sublist.refl before).append ?_)
    exact (List.nil_sublist after).cons_cons _
  have hdistinct : first ≠ second := by
    have hreferences := (nodup_bases_of hnodup reference.kind).sublist (hpair.map Prod.fst)
    simpa using hreferences
  obtain ⟨hfirst, hsecond⟩ : (first, shared) ∈ program.basesOf reference.kind ∧
      (second, shared) ∈ program.basesOf reference.kind := by simpa using hpair.subset
  refine ⟨first, second, shared, numbers, hdistinct, hfirst, hsecond, ?_, hpositive, heq⟩
  -- Without numbers the base itself would be shared.
  rintro rfl
  obtain rfl : base = shared := heq
  have halone {other : Reference} (hother : (other, base) ∈ program.basesOf reference.kind) :
      other = reference :=
    hunshared _ (mem_alias_bases_of_kind hkind hother) rfl
  exact hdistinct ((halone hfirst).trans (halone hsecond).symm)

/-- A declaration whose base no other one has is called by its base exactly if no other declaration
is called so; and if it is not called by its base, the base is one that two declarations of the
same kind share, with numbers behind it. -/
theorem unshared_base_is_alias (hnodup : ∀ kind, (program.table kind).ids.Nodup)
    (hlisted : (reference, base) ∈ program.aliasBases)
    (hunshared : ∀ entry ∈ program.aliasBases, entry.2 = base → entry.1 = reference) :
    (program.alias? reference = some base ↔
      ∀ other, program.alias? other = some base → other = reference) ∧
    (program.alias? reference ≠ some base → program.IsNumberedShare reference.kind base) := by
  refine ⟨⟨fun hbase other hother => alias_injective hother hbase, fun hunique => ?_⟩,
    numbered_share_of_ne hnodup hlisted hunshared⟩
  by_contra hne
  obtain ⟨holder, hholder⟩ := alias_taken_of_ne hnodup hlisted hne
  exact hne (hunique holder hholder ▸ hholder)

/-- A machine that looks like a second `Main` is called by its base when the second `Main` comes
after it and takes the next number. -/
theorem unshared_base_is_alias_of_earlier :
    let program : Program :=
      ((Program.empty.add (.machine ⟨"Main", .real, none, .unknown⟩)).add
        (.machine ⟨"Main_1", .real, none, .unknown⟩)).add
        (.machine ⟨"Main", .real, none, .unknown⟩)
    (∀ kind, (program.table kind).ids.Nodup) ∧
      (⟨.machine, 1⟩, "machdecl__Main_1") ∈ program.aliasBases ∧
      (∀ entry ∈ program.aliasBases, entry.2 = "machdecl__Main_1" → entry.1 = ⟨.machine, 1⟩) ∧
      (program.alias? ⟨.machine, 1⟩ = some "machdecl__Main_1" ↔
        ∀ other, program.alias? other = some "machdecl__Main_1" → other = ⟨.machine, 1⟩) ∧
      (program.alias? ⟨.machine, 1⟩ ≠ some "machdecl__Main_1" →
        program.IsNumberedShare .machine "machdecl__Main_1") ∧
      program.alias? ⟨.machine, 1⟩ = some "machdecl__Main_1" ∧
      program.alias? ⟨.machine, 2⟩ = some "machdecl__Main_2" := by
  intro program
  have hnodup : ∀ kind, (program.table kind).ids.Nodup := by
    intro kind
    cases kind <;> decide
  have hlisted : (⟨.machine, 1⟩, "machdecl__Main_1") ∈ program.aliasBases := by decide +kernel
  have hunshared : ∀ entry ∈ program.aliasBases,
      entry.2 = "machdecl__Main_1" → entry.1 = ⟨.machine, 1⟩ := by decide +kernel
  obtain ⟨hiff, hnumbered⟩ := unshared_base_is_alias hnodup hlisted hunshared
  exact ⟨hnodup, hlisted, hunshared, hiff, hnumbered, by decide +kernel, by decide +kernel⟩

/-- A machine that looks like a second `Main` is not called by its base when it comes after the
second `Main`, although no other declaration has this base. -/
theorem unshared_base_is_numbered :
    let program : Program :=
      ((Program.empty.add (.machine ⟨"Main", .real, none, .unknown⟩)).add
        (.machine ⟨"Main", .real, none, .unknown⟩)).add
        (.machine ⟨"Main_1", .real, none, .unknown⟩)
    program.Built ∧
      (⟨.machine, 2⟩, "machdecl__Main_1") ∈ program.aliasBases ∧
      (∀ entry ∈ program.aliasBases, entry.2 = "machdecl__Main_1" → entry.1 = ⟨.machine, 2⟩) ∧
      program.alias? ⟨.machine, 2⟩ = some "machdecl__Main_1_1" :=
  ⟨.add (.add (.add .empty (by decide)) (by decide)) (by decide), by decide +kernel,
    by decide +kernel, by decide +kernel⟩

end Program

end MachineCompiler.Source
