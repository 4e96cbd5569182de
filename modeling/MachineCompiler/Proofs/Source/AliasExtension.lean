import MachineCompiler.Proofs.Source.AliasKinds

/-!
# Aliases stay as they are when a program grows

Declarations are added at the end of the table of their kind, so the earlier declarations of the
kind are served first and as before. What they are called depends on the names of their owners, and
these are not touched either: an owner that is there keeps its name, and the identifier of one that
is absent is never given away again.
-/

namespace MachineCompiler.Source.Program

variable {program extended : Program} {declaration : Declaration} {kind : Kind}

/-- The programs got from a program by adding declarations that refer to earlier identifiers. -/
inductive Extended (program : Program) : Program → Prop where
  | refl : Extended program program
  | add {extended : Program} {declaration : Declaration} (h : Extended program extended)
      (hearlier : ∀ reference ∈ declaration.references, reference.id < extended.nextId) :
      Extended program (extended.add declaration)

/-- Growth is one way of being built. -/
theorem Extended.built (h : program.Extended extended) (hbuilt : program.Built) :
    extended.Built := by
  induction h with
  | refl => exact hbuilt
  | add _ hearlier ih => exact ih.add hearlier

/-- An addition names no machine under an identifier that was given away before. -/
theorem machine_name_add {id : DeclarationId} (hid : id < program.nextId) :
    (program.add declaration).machineName id = program.machineName id := by
  cases declaration with
  | machine declaration =>
    have hne : program.nextId ≠ id := Nat.ne_of_gt hid
    simp [machineName, add, addMachine, Table.get?, List.find?_append, hne]
  | _ => rfl

/-- An addition changes no base of what was there, because owners are earlier. -/
theorem base_add {other : Declaration}
    (hearlier : ∀ reference ∈ other.references, reference.id < program.nextId) :
    other.base (program.add declaration) = other.base program := by
  have howner {id : DeclarationId} (hmem : ⟨.machine, id⟩ ∈ other.references) :
      (program.add declaration).machineName id = program.machineName id :=
    machine_name_add (hearlier _ hmem)
  cases other with
  | state state => simp only [Declaration.base, stateBase, howner List.mem_cons_self]
  | «variable» declared => simp only [Declaration.base, variableBase, howner List.mem_cons_self]
  | function function =>
    simp only [Declaration.base, functionBase]
    split
    · rename_i owner hsome
      rw [howner (by simp [Declaration.references, hsome])]
    · rfl
  | _ => rfl

/-- An addition leaves the bases of every kind and adds at most one at the end. -/
theorem bases_of_add (h : program.Ordered) :
    ∃ added, (program.add declaration).basesOf kind = program.basesOf kind ++ added := by
  have hold : (program.table kind).map
      (fun entry => (⟨kind, entry.1⟩, entry.2.base (program.add declaration))) =
        program.basesOf kind := by
    refine List.map_congr_left fun entry hentry => congrArg _ (base_add fun reference hmem => ?_)
    exact Nat.lt_trans (h.earlier kind entry hentry reference hmem) (h.fresh kind entry hentry)
  rw [basesOf, table_add, List.map_append, hold]
  exact ⟨_, rfl⟩

theorem Extended.bases_of (h : program.Extended extended) (hbuilt : program.Built) (kind : Kind) :
    ∃ added, extended.basesOf kind = program.basesOf kind ++ added := by
  induction h with
  | refl => exact ⟨[], (List.append_nil _).symm⟩
  | add hextended _ ih =>
    obtain ⟨before, hbefore⟩ := ih
    obtain ⟨added, hadded⟩ := bases_of_add (hextended.built hbuilt).ordered
    exact ⟨before ++ added, by rw [hadded, hbefore, List.append_assoc]⟩

/-- What has an alias in a program has the same alias in every extension, and the aliases of each
kind are those that a fresh supply gives to the kind alone. -/
theorem aliases_are_stable (hbuilt : program.Built) (hextended : program.Extended extended) :
    (∀ reference name, program.alias? reference = some name →
      extended.alias? reference = some name) ∧
    ∀ kind ∈ aliasedKinds,
      (program.aliases.filter fun entry => entry.1.kind = kind) =
        (AliasSupply.empty.allocateAll (program.basesOf kind)).1 := by
  refine ⟨fun reference name halias => ?_, fun kind hkind => filter_aliases hkind⟩
  obtain ⟨hkind, hmem⟩ := kind_of_mem_aliases (mem_aliases_of_alias halias)
  obtain ⟨added, hadded⟩ := hextended.bases_of hbuilt reference.kind
  -- The earlier declarations of the kind are served before the added ones.
  have hserved : (reference, name) ∈
      (AliasSupply.empty.allocateAll (extended.basesOf reference.kind)).1 := by
    rw [hadded, AliasSupply.allocate_all_append]
    exact List.mem_append_left _ hmem
  exact alias_of_mem_aliases (hextended.built hbuilt).ordered.nodup
    (mem_aliases_of_kind hkind hserved)

/-- A machine, a variable of it and a function of a machine that was removed; then a machine of the
name of the first one, one that looks like its second alias, an event and a variable that look like
further ones. -/
theorem aliases_are_stable_among_lookalikes :
    let program : Program :=
      ((((Program.empty.add (.machine ⟨"Main", .real, none, .unknown⟩)).add
        (.machine ⟨"Gone", .real, none, .unknown⟩)).add
        (.variable ⟨"x", 0, .nil, .unknown⟩)).add
        (.function ⟨"f", some 1, [], none, .nil, .unknown⟩)).remove ⟨.machine, 1⟩
    let extended : Program :=
      (((program.add (.machine ⟨"Main", .real, none, .unknown⟩)).add
        (.machine ⟨"Main_1", .real, none, .unknown⟩)).add
        (.event ⟨"x_1", none, none, .unknown⟩)).add
        (.variable ⟨"x", 0, .nil, .unknown⟩)
    program.Built ∧ program.Extended extended ∧
      (∀ reference name, program.alias? reference = some name →
        extended.alias? reference = some name) ∧
      (program.aliases.filter fun entry => entry.1.kind = .function) =
        (AliasSupply.empty.allocateAll (program.basesOf .function)).1 ∧
      extended.alias? ⟨.machine, 0⟩ = some "machdecl__Main" ∧
      extended.alias? ⟨.function, 3⟩ = some "fundecl____f" ∧
      extended.alias? ⟨.variable, 7⟩ = some "vardecl__Main__x_1" := by
  intro program extended
  have hbuilt : program.Built :=
    .remove (.add (.add (.add (.add .empty (by decide)) (by decide)) (by decide)) (by decide))
  have hextended : program.Extended extended :=
    .add (.add (.add (.add .refl (by decide)) (by decide)) (by decide)) (by decide)
  obtain ⟨hstable, hkinds⟩ := aliases_are_stable hbuilt hextended
  exact ⟨hbuilt, hextended, hstable, hkinds .function (by decide), by decide +kernel,
    by decide +kernel, by decide +kernel⟩

end MachineCompiler.Source.Program
