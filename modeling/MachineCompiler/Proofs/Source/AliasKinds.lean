import MachineCompiler.Proofs.Source.NameSupply

/-!
# Aliases of different kinds never meet

One supply hands out the aliases of all kinds, one kind after the other. The bases of a kind begin
with a word of their own, and no such word begins with that of another kind, so whatever the
declarations are called and however they are numbered, no kind takes a name that another one asks
for. Every kind gets the aliases that a fresh supply would give to it alone.
-/

namespace MachineCompiler.Source

namespace AliasSupply

variable {supply other : AliasSupply} {bases first second : List (Reference × String)}
  {base name : String} {taken taken' : List String}

/-! ## What a supply remembers -/

/-- Only the candidates of a base decide which of them is the first one left. -/
theorem first_untaken_congr
    (h : ∀ number, candidate base number ∈ taken ↔ candidate base number ∈ taken') :
    firstUntaken base taken = firstUntaken base taken' := by
  obtain ⟨number, heq, hfree, hleast⟩ := first_untaken_spec base taken'
  rw [heq]
  exact first_untaken_eq (mt (h number).1 hfree) fun earlier hlt => (h earlier).2 (hleast earlier hlt)

theorem allocate_all_append :
    (supply.allocateAll (first ++ second)).1 =
      (supply.allocateAll first).1 ++ ((supply.allocateAll first).2.allocateAll second).1 := by
  induction first generalizing supply with
  | nil => rfl
  | cons entry rest ih => exact congrArg ((entry.1, (supply.allocate entry.2).1) :: ·) ih

theorem Sound.allocate_all (h : supply.Sound) : (supply.allocateAll bases).2.Sound := by
  induction bases generalizing supply with
  | nil => exact h
  | cons entry rest ih => exact ih h.allocate

/-- What is assigned was assigned before or was handed out just now. -/
theorem mem_assigned_allocate_all :
    name ∈ (supply.allocateAll bases).2.assigned ↔
      name ∈ supply.assigned ∨ ∃ entry ∈ (supply.allocateAll bases).1, entry.2 = name := by
  induction bases generalizing supply with
  | nil => simp [allocateAll]
  | cons entry rest ih =>
    show name ∈ ((supply.allocate entry.2).2.allocateAll rest).2.assigned ↔
      _ ∨ ∃ handed ∈ (entry.1, (supply.allocate entry.2).1) ::
        ((supply.allocate entry.2).2.allocateAll rest).1, handed.2 = name
    rw [ih, assigned_allocate, List.mem_cons, List.exists_mem_cons_iff, @eq_comm _ name, or_assoc,
      or_left_comm]

/-- Supplies in which the same candidates are taken hand out the same aliases. -/
theorem Sound.allocate_all_congr (h : supply.Sound) (h' : other.Sound)
    (hagree : ∀ entry ∈ bases, ∀ number,
      candidate entry.2 number ∈ supply.assigned ↔ candidate entry.2 number ∈ other.assigned) :
    (supply.allocateAll bases).1 = (other.allocateAll bases).1 := by
  induction bases generalizing supply other with
  | nil => rfl
  | cons entry rest ih =>
    obtain ⟨hentry, hrest⟩ := List.forall_mem_cons.1 hagree
    have hname : (supply.allocate entry.2).1 = (other.allocate entry.2).1 := by
      rw [h.allocate_eq, h'.allocate_eq, first_untaken_congr hentry]
    have hlater := ih h.allocate h'.allocate fun later hlater number => by
      rw [assigned_allocate, assigned_allocate, List.mem_cons, List.mem_cons, hname,
        hrest later hlater number]
    exact congrArg₂ (fun chosen rest => (entry.1, chosen) :: rest) hname hlater

/-- No candidate of the one bases is a candidate of the others. -/
def Apart (first second : List (Reference × String)) : Prop :=
  ∀ one ∈ first, ∀ two ∈ second, ∀ m n, candidate one.2 m ≠ candidate two.2 n

/-- Bases that are apart from all that was asked for get what a fresh supply gives them. -/
theorem Apart.allocate_all_append (h : Apart first second) :
    (empty.allocateAll (first ++ second)).1 =
      (empty.allocateAll first).1 ++ (empty.allocateAll second).1 := by
  rw [AliasSupply.allocate_all_append]
  refine congrArg _ (Sound.empty.allocate_all.allocate_all_congr .empty fun two htwo number => ?_)
  -- What was handed out are candidates of the bases before.
  refine iff_of_false (fun hmem => ?_) List.not_mem_nil
  obtain hnone | ⟨entry, hentry, heq⟩ := mem_assigned_allocate_all.1 hmem
  · exact List.not_mem_nil hnone
  · obtain ⟨base, m, hbase, hcandidate⟩ := allocate_all_candidate entry hentry
    exact h _ hbase two htwo m number (hcandidate.symm.trans heq)

/-- Groups of bases that are apart are served as if each of them were alone. -/
theorem allocate_all_flat_map {ι : Type} {groups : List ι}
    {basesOf : ι → List (Reference × String)}
    (h : groups.Pairwise fun one two => Apart (basesOf one) (basesOf two)) :
    (empty.allocateAll (groups.flatMap basesOf)).1 =
      groups.flatMap fun group => (empty.allocateAll (basesOf group)).1 := by
  induction groups with
  | nil => rfl
  | cons group rest ih =>
    obtain ⟨hgroup, hrest⟩ := List.pairwise_cons.1 h
    have hapart : Apart (basesOf group) (rest.flatMap basesOf) := by
      intro one hone two htwo
      obtain ⟨later, hlater, htwo⟩ := List.mem_flatMap.1 htwo
      exact hgroup later hlater one hone two htwo
    rw [List.flatMap_cons, List.flatMap_cons, hapart.allocate_all_append, ih hrest]

end AliasSupply

/-! ## The words that bases begin with -/

/-- The word that the bases of a kind begin with. -/
def Kind.aliasStart : Kind → String
  | .machine => "machdecl__"
  | .event => "evdecl__"
  | .variable => "vardecl__"
  | .function => "fundecl__"
  | .anonFunction => "afundecl__"
  | .state => "statedecl__"
  | _ => ""

/-- No kind's word begins with that of another kind. -/
theorem Kind.alias_starts_apart :
    ∀ kind ∈ aliasedKinds, ∀ other ∈ aliasedKinds,
      kind.aliasStart.toList <+: other.aliasStart.toList → kind = other := by
  decide

/-- Texts that begin with the words of two kinds and go on to the same text are of one kind. -/
theorem Kind.eq_of_common_extension {kind other : Kind} (hkind : kind ∈ aliasedKinds)
    (hother : other ∈ aliasedKinds) {text : List Char} (hfirst : kind.aliasStart.toList <+: text)
    (hsecond : other.aliasStart.toList <+: text) : kind = other := by
  rcases List.prefix_or_prefix_of_prefix hfirst hsecond with h | h
  · exact alias_starts_apart kind hkind other hother h
  · exact (alias_starts_apart other hother kind hkind h).symm

theorem AliasSupply.candidate_begins (base : String) (number : Nat) :
    base.toList <+: (candidate base number).toList := by
  obtain ⟨suffix, heq⟩ := candidate_to_list base number
  exact ⟨suffix, heq.symm⟩

namespace Program

variable {program : Program} {reference : Reference} {base name : String} {kind : Kind}

/-- The declarations of one kind, each with the base of its alias. -/
def basesOf (program : Program) (kind : Kind) : List (Reference × String) :=
  (program.table kind).map fun entry => (⟨kind, entry.1⟩, entry.2.base program)

theorem alias_bases_eq_flat_map : program.aliasBases = aliasedKinds.flatMap program.basesOf :=
  alias_bases_eq

theorem kind_of_mem_bases_of (h : (reference, base) ∈ program.basesOf kind) :
    reference.kind = kind := by
  obtain ⟨entry, -, heq⟩ := List.mem_map.1 h
  rw [← (Prod.mk.inj heq).1]

theorem mem_alias_bases_of_kind {entry : Reference × String} (hkind : kind ∈ aliasedKinds)
    (h : entry ∈ program.basesOf kind) : entry ∈ program.aliasBases := by
  rw [alias_bases_eq_flat_map]
  exact List.mem_flatMap.2 ⟨kind, hkind, h⟩

/-- What asks for an alias is of a kind that gets one. -/
theorem kind_of_mem_alias_bases (h : (reference, base) ∈ program.aliasBases) :
    reference.kind ∈ aliasedKinds ∧ (reference, base) ∈ program.basesOf reference.kind := by
  rw [alias_bases_eq_flat_map, List.mem_flatMap] at h
  obtain ⟨kind, hkind, hmem⟩ := h
  obtain rfl := kind_of_mem_bases_of hmem
  exact ⟨hkind, hmem⟩

/-- The base of a declaration begins with the word of its kind. -/
theorem base_begins (hkind : kind ∈ aliasedKinds)
    (h : (reference, base) ∈ program.basesOf kind) :
    kind.aliasStart.toList <+: base.toList := by
  obtain ⟨⟨id, declaration⟩, hmem, heq⟩ := List.mem_map.1 h
  obtain rfl := (Prod.mk.inj heq).2
  obtain rfl := kind_of_mem hmem
  cases declaration with
  | function declaration =>
    simp only [Declaration.base, functionBase, Declaration.kind, Kind.aliasStart]
    split <;> simp
  | machine | event | «variable» | anonFunction | state =>
    simp [Declaration.base, Declaration.kind, Kind.aliasStart, machineBase, eventBase, variableBase,
      anonFunctionBase, stateBase]
  | typeDef | enumTypeDef | modelType | transition | handler | property =>
    simp [Declaration.kind, aliasedKinds] at hkind

theorem bases_of_apart (program : Program) :
    aliasedKinds.Pairwise fun one two =>
      AliasSupply.Apart (program.basesOf one) (program.basesOf two) := by
  have hkinds : aliasedKinds.Nodup := by decide
  refine List.Pairwise.imp_of_mem (fun {kind other} hkind hother hne => ?_) hkinds
  intro one hone two htwo m n heq
  have hfirst := (base_begins hkind hone).trans (AliasSupply.candidate_begins one.2 m)
  have hsecond := (base_begins hother htwo).trans (AliasSupply.candidate_begins two.2 n)
  exact hne (Kind.eq_of_common_extension hkind hother hfirst (heq ▸ hsecond))

/-- The aliases of a program are, one kind after the other, those that a fresh supply gives to the
kind. -/
theorem aliases_eq_flat_map :
    program.aliases = aliasedKinds.flatMap fun kind =>
      (AliasSupply.empty.allocateAll (program.basesOf kind)).1 := by
  rw [aliases, alias_bases_eq_flat_map, AliasSupply.allocate_all_flat_map program.bases_of_apart]

theorem kind_of_mem_allocate_all
    (h : (reference, name) ∈ (AliasSupply.empty.allocateAll (program.basesOf kind)).1) :
    reference.kind = kind := by
  obtain ⟨base, -, hmem, -⟩ := AliasSupply.allocate_all_candidate _ h
  exact kind_of_mem_bases_of hmem

theorem mem_aliases_of_kind {entry : Reference × String} (hkind : kind ∈ aliasedKinds)
    (h : entry ∈ (AliasSupply.empty.allocateAll (program.basesOf kind)).1) :
    entry ∈ program.aliases := by
  rw [aliases_eq_flat_map]
  exact List.mem_flatMap.2 ⟨kind, hkind, h⟩

/-- An alias of the program is one that its kind alone is given. -/
theorem kind_of_mem_aliases (h : (reference, name) ∈ program.aliases) :
    reference.kind ∈ aliasedKinds ∧
      (reference, name) ∈ (AliasSupply.empty.allocateAll (program.basesOf reference.kind)).1 := by
  rw [aliases_eq_flat_map, List.mem_flatMap] at h
  obtain ⟨kind, hkind, hmem⟩ := h
  obtain rfl := kind_of_mem_allocate_all hmem
  exact ⟨hkind, hmem⟩

/-- The aliases of one kind are those that a fresh supply gives to it alone. -/
theorem filter_aliases (hkind : kind ∈ aliasedKinds) :
    (program.aliases.filter fun entry => entry.1.kind = kind) =
      (AliasSupply.empty.allocateAll (program.basesOf kind)).1 := by
  have hgroup (group : Kind) :
      ((AliasSupply.empty.allocateAll (program.basesOf group)).1.filter
        fun entry => entry.1.kind = kind) =
      if group = kind then (AliasSupply.empty.allocateAll (program.basesOf group)).1 else [] := by
    split
    · rename_i heq
      refine List.filter_eq_self.2 fun entry hentry => ?_
      exact decide_eq_true ((kind_of_mem_allocate_all hentry).trans heq)
    · rename_i hne
      refine List.filter_eq_nil_iff.2 fun entry hentry heq => hne ?_
      exact (kind_of_mem_allocate_all hentry).symm.trans (of_decide_eq_true heq)
  rw [aliases_eq_flat_map, List.filter_flatMap]
  simp only [hgroup]
  -- Of the six kinds exactly one is the given one.
  revert hkind
  simp only [aliasedKinds, List.mem_cons, List.not_mem_nil, or_false]
  rintro (rfl | rfl | rfl | rfl | rfl | rfl) <;> simp

end Program

end MachineCompiler.Source
