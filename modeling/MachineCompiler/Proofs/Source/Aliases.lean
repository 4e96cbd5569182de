import MachineCompiler.Proofs.Source.Ownership
import MachineCompiler.Source.Alias
import Mathlib.Data.List.Nodup

/-!
# Aliases are names of one declaration each

The aliases handed out are distinct, each is the base of its declaration, with a number or without
one, and none is the constant for an absent value. What is handed out depends on the bases and on
nothing else about the declarations.
-/

namespace MachineCompiler.Source

/-- Among entries with distinct keys, the one listed under a key is found. -/
theorem lookup_of_mem {α β : Type} [DecidableEq α] {entries : List (α × β)} {key : α} {value : β}
    (hnodup : (entries.map Prod.fst).Nodup) (h : (key, value) ∈ entries) :
    entries.lookup key = some value := by
  obtain ⟨found, hfound⟩ := Option.isSome_iff_exists.1
    (List.lookup_isSome_iff.2 ⟨_, h, beq_self_eq_true key⟩)
  obtain ⟨before, after, hentries, -⟩ := List.lookup_eq_some_iff.1 hfound
  have hmem : (key, found) ∈ entries :=
    hentries ▸ List.mem_append_right _ List.mem_cons_self
  rw [hfound, (Prod.mk.inj (List.inj_on_of_nodup_map hnodup h hmem rfl)).2]

/-! ## Handing out aliases -/

namespace AliasSupply

/-- Candidates of one base with different numbers differ. -/
theorem candidate_injective {base : String} {m n : Nat} (h : candidate base m = candidate base n) :
    m = n := by
  have hlist := congrArg String.toList h
  rcases m with _ | m <;> rcases n with _ | n
  · rfl
  · simp [candidate] at hlist
  · simp [candidate] at hlist
  · simp only [candidate, String.toList_append, List.append_assoc, List.append_cancel_left_eq,
      Nat.toString_eq_ofList_toDigits, String.toList_ofList] at hlist
    calc
      m + 1 = Nat.ofDigitChars 10 (Nat.toDigits 10 (m + 1)) 0 :=
        Nat.ofDigitChars_ten_toDigits.symm
      _ = Nat.ofDigitChars 10 (Nat.toDigits 10 (n + 1)) 0 := by rw [hlist]
      _ = n + 1 := Nat.ofDigitChars_ten_toDigits

theorem candidate_to_list (base : String) (count : Nat) :
    ∃ suffix, (candidate base count).toList = base.toList ++ suffix := by
  cases count with
  | zero => exact ⟨[], (List.append_nil _).symm⟩
  | succ count =>
    exact ⟨"_".toList ++ (toString (count + 1)).toList, by simp [candidate]⟩

/-- The candidate found is not taken. -/
theorem first_free_not_taken (base : String) (count : Nat) (taken : List String) :
    count ≤ firstFree base count taken ∧ candidate base (firstFree base count taken) ∉ taken := by
  induction count, taken using firstFree.induct base with
  | case1 count taken hmem ih =>
    rw [firstFree, dif_pos hmem]
    -- The candidate found has a later number than the erased one, so it is another name and was not
    -- lost by the erasure.
    refine ⟨Nat.le_of_succ_le ih.1, fun htaken => ih.2 ?_⟩
    refine (List.mem_erase_of_ne fun heq => ?_).2 htaken
    have := candidate_injective heq
    omega
  | case2 count taken hfree =>
    rw [firstFree, dif_neg hfree]
    exact ⟨Nat.le_refl _, hfree⟩

theorem allocate_fresh (supply : AliasSupply) (base : String) :
    (supply.allocate base).1 ∉ supply.assigned :=
  (first_free_not_taken base _ _).2

variable {supply : AliasSupply} {bases : List (Reference × String)}

/-- Every declaration gets an alias, in order. -/
theorem map_fst_allocate_all :
    (supply.allocateAll bases).1.map Prod.fst = bases.map Prod.fst := by
  induction bases generalizing supply with
  | nil => rfl
  | cons entry rest ih => exact congrArg (entry.1 :: ·) ih

theorem allocate_all_fresh :
    ∀ entry ∈ (supply.allocateAll bases).1, entry.2 ∉ supply.assigned := by
  induction bases generalizing supply with
  | nil => exact List.forall_mem_nil _
  | cons entry rest ih =>
    refine List.forall_mem_cons.2 ⟨supply.allocate_fresh entry.2, fun other hother hassigned => ?_⟩
    exact ih other hother (List.mem_cons_of_mem _ hassigned)

/-- No alias is handed out twice. -/
theorem nodup_allocate_all : ((supply.allocateAll bases).1.map Prod.snd).Nodup := by
  induction bases generalizing supply with
  | nil => exact List.nodup_nil
  | cons entry rest ih =>
    refine List.nodup_cons.2 ⟨fun hmem => ?_, ih⟩
    obtain ⟨other, hother, heq⟩ := List.mem_map.1 hmem
    exact allocate_all_fresh other hother (heq ▸ List.mem_cons_self)

/-- Every alias is a candidate of the base of its declaration. -/
theorem allocate_all_candidate :
    ∀ entry ∈ (supply.allocateAll bases).1,
      ∃ base number, (entry.1, base) ∈ bases ∧ entry.2 = candidate base number := by
  induction bases generalizing supply with
  | nil => exact List.forall_mem_nil _
  | cons first rest ih =>
    refine List.forall_mem_cons.2 ⟨⟨first.2, _, List.mem_cons_self, rfl⟩, fun entry hentry => ?_⟩
    obtain ⟨base, number, hmem, heq⟩ := ih entry hentry
    exact ⟨base, number, List.mem_cons_of_mem _ hmem, heq⟩

/-- Only the bases decide about the aliases. -/
theorem allocate_all_map (rename : Reference → Reference) :
    supply.allocateAll (bases.map (Prod.map rename id)) =
      ((supply.allocateAll bases).1.map (Prod.map rename id), (supply.allocateAll bases).2) := by
  induction bases generalizing supply with
  | nil => rfl
  | cons entry rest ih =>
    obtain ⟨reference, base⟩ := entry
    simp only [List.map_cons, Prod.map_apply, id_eq, allocateAll, ih]

end AliasSupply

/-! ## The aliases of a program -/

/-- The kinds whose declarations get an alias, in the order in which aliases are handed out. -/
def aliasedKinds : List Kind :=
  [.machine, .event, .variable, .function, .anonFunction, .state]

/-- The base of a declaration's alias; none for declarations without an alias. -/
def Declaration.base (program : Program) : Declaration → String
  | .machine declaration => Program.machineBase declaration
  | .event declaration => Program.eventBase declaration
  | .variable declaration => program.variableBase declaration
  | .function declaration => program.functionBase declaration
  | .anonFunction _ => Program.anonFunctionBase
  | .state declaration => program.stateBase declaration
  | _ => ""

namespace Program

variable {program : Program} {reference other : Reference} {name : String}

theorem alias_bases_eq :
    program.aliasBases = aliasedKinds.flatMap fun kind =>
      (program.table kind).map fun entry => (⟨kind, entry.1⟩, entry.2.base program) := by
  simp [aliasBases, aliasedKinds, table, Function.comp_def, Declaration.base]

/-- The declarations with an alias are those of the aliased kinds. -/
theorem map_fst_aliases :
    program.aliases.map Prod.fst =
      aliasedKinds.flatMap fun kind => (program.idsOf kind).map (⟨kind, ·⟩) := by
  rw [aliases, AliasSupply.map_fst_allocate_all, alias_bases_eq, List.map_flatMap]
  simp only [List.map_map, Function.comp_def, ids_of_eq, Table.ids]

/-- The references to the declarations of some kinds are those that lead to one of these kinds. -/
theorem mem_references {order : List Kind} :
    reference ∈ (order.flatMap fun kind => (program.idsOf kind).map (Reference.mk kind)) ↔
      reference.kind ∈ order ∧ program.holds reference = true := by
  rw [List.mem_flatMap, holds, List.contains_iff_mem]
  constructor
  · rintro ⟨kind, hkind, hmem⟩
    obtain ⟨id, hid, rfl⟩ := List.mem_map.1 hmem
    exact ⟨hkind, hid⟩
  · rintro ⟨hkind, hid⟩
    exact ⟨reference.kind, hkind, List.mem_map.2 ⟨reference.id, hid, rfl⟩⟩

theorem mem_map_fst_aliases :
    reference ∈ program.aliases.map Prod.fst ↔
      reference.kind ∈ aliasedKinds ∧ program.holds reference = true := by
  rw [map_fst_aliases, mem_references]

/-- The references to the declarations of distinct kinds are distinct. -/
theorem nodup_references {order : List Kind} (horder : order.Nodup)
    (h : ∀ kind, (program.table kind).ids.Nodup) :
    (order.flatMap fun kind => (program.idsOf kind).map (Reference.mk kind)).Nodup := by
  rw [List.nodup_flatMap]
  refine ⟨fun kind _ => ?_, ?_⟩
  · exact (nodup_ids_of h kind).map fun first second heq => congrArg Reference.id heq
  · refine horder.imp fun {first second} hne reference hfirst hsecond => hne ?_
    obtain ⟨_, _, rfl⟩ := List.mem_map.1 hfirst
    obtain ⟨_, _, heq⟩ := List.mem_map.1 hsecond
    exact (congrArg Reference.kind heq).symm

theorem nodup_map_fst_aliases (h : ∀ kind, (program.table kind).ids.Nodup) :
    (program.aliases.map Prod.fst).Nodup := by
  rw [map_fst_aliases]
  exact nodup_references (by decide) h

theorem mem_aliases_of_alias (h : program.alias? reference = some name) :
    (reference, name) ∈ program.aliases := by
  obtain ⟨before, after, heq, -⟩ := List.lookup_eq_some_iff.1 h
  rw [heq]
  exact List.mem_append_right _ List.mem_cons_self

/-- Every declaration of an aliased kind has an alias. -/
theorem alias_of_holds (hkind : reference.kind ∈ aliasedKinds)
    (hholds : program.holds reference = true) : ∃ name, program.alias? reference = some name := by
  obtain ⟨entry, hmem, rfl⟩ := List.mem_map.1 (mem_map_fst_aliases.2 ⟨hkind, hholds⟩)
  exact Option.isSome_iff_exists.1 (List.lookup_isSome_iff.2 ⟨entry, hmem, beq_self_eq_true _⟩)

theorem alias_of_mem_aliases (hnodup : ∀ kind, (program.table kind).ids.Nodup)
    (h : (reference, name) ∈ program.aliases) : program.alias? reference = some name :=
  lookup_of_mem (nodup_map_fst_aliases hnodup) h

/-- Declarations of one alias are the same declaration. -/
theorem alias_injective (hfirst : program.alias? reference = some name)
    (hsecond : program.alias? other = some name) : reference = other := by
  have hnodup : (program.aliases.map Prod.snd).Nodup := AliasSupply.nodup_allocate_all
  have heq := List.inj_on_of_nodup_map hnodup (mem_aliases_of_alias hfirst)
    (mem_aliases_of_alias hsecond) rfl
  exact (Prod.mk.inj heq).1

/-- The bases begin with a small letter. -/
theorem base_first (program : Program) {declaration : Declaration} (h : declaration.kind ∈ aliasedKinds) :
    ∃ first rest, (declaration.base program).toList = first :: rest ∧ first ≠ 'N' := by
  cases declaration with
  | function declaration =>
    simp only [Declaration.base, functionBase]
    split <;> simp
  | machine | event | «variable» | anonFunction | state =>
    simp [Declaration.base, machineBase, eventBase, variableBase, anonFunctionBase, stateBase]
  | typeDef | enumTypeDef | modelType | transition | handler | property =>
    simp [Declaration.kind, aliasedKinds] at h

/-- No alias is the constant for an absent value. -/
theorem alias_ne_nil (h : program.alias? reference = some name) : name ≠ "NIL" := by
  obtain ⟨base, number, hbase, heq⟩ :=
    AliasSupply.allocate_all_candidate _ (mem_aliases_of_alias h)
  rw [alias_bases_eq, List.mem_flatMap] at hbase
  obtain ⟨kind, hkind, hentry⟩ := hbase
  obtain ⟨entry, hmem, hpair⟩ := List.mem_map.1 hentry
  cases hpair
  -- An alias begins as its base does, with a small letter.
  obtain ⟨first, rest, hlist, hfirst⟩ :=
    base_first program (kind_of_mem hmem ▸ hkind)
  rintro rfl
  obtain ⟨suffix, hcandidate⟩ :=
    AliasSupply.candidate_to_list (entry.2.base program) number
  have hname : ['N', 'I', 'L'] = first :: (rest ++ suffix) := by
    rw [← List.cons_append, ← hlist, ← hcandidate, ← heq]
    simp
  exact hfirst (List.cons.inj hname).1.symm

end Program

end MachineCompiler.Source
