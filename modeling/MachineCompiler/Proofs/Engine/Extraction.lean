import MachineCompiler.Engine.Result
import Mathlib.Data.List.Nodup

/-!
# What extraction does to references

An output of a transform is extracted with a start put before all of its aliases. The terms of its
facts stay as they are, and so do the symbols in them that stand for facts. What a symbol refers to
is therefore kept only where no symbol is an alias, be it before or afterwards, or where nothing is
put before the aliases.
-/

namespace MachineCompiler

namespace Term

/-- The name of a symbol. -/
def symbol? : Term → Option String
  | .symbol name => some name
  | _ => none

/-- The symbols in a term, from left to right. -/
def symbols (term : Term) : List String :=
  term.subterms.filterMap symbol?

end Term

namespace Engine

namespace Model

variable {model : Model} {start name : String} {place : Nat}

/-- The name is the alias of the fact at the place. -/
def Binds (model : Model) (place : Nat) (name : String) : Prop :=
  ∃ fact, model.facts[place]? = some fact ∧ fact.binding = some name

/-- The aliases of a model, in order. -/
def aliases (model : Model) : List String :=
  model.facts.filterMap Fact.binding

/-- The symbols in the terms of a model, in order. -/
def symbols (model : Model) : List String :=
  model.facts.flatMap fun fact => fact.term.symbols

/-- Fact by fact and symbol by symbol, the two models have the same references: a symbol that is
the alias of a fact corresponds to the alias of the fact at the same place, and one that is no alias
corresponds to one that is none. -/
def SameReferences (first second : Model) : Prop :=
  List.Forall₂ (fun fact fact' : Fact =>
    List.Forall₂ (fun name name' => ∀ place, first.Binds place name ↔ second.Binds place name')
      fact.term.symbols fact'.term.symbols) first.facts second.facts

/-- The model with a start put before its aliases. -/
def started (model : Model) (start : String) : Model :=
  { model with facts := model.facts.map fun fact =>
      { fact with binding := fact.binding.map (start ++ ·) } }

/-- A fact has one alias at most. -/
theorem Binds.unique {other : String} (h : model.Binds place name)
    (hother : model.Binds place other) : name = other := by
  obtain ⟨fact, hfact, hname⟩ := h
  obtain ⟨fact', hfact', hname'⟩ := hother
  obtain rfl : fact = fact' := Option.some.inj (hfact.symm.trans hfact')
  exact Option.some.inj (hname.symm.trans hname')

theorem mem_aliases_iff : name ∈ model.aliases ↔ ∃ place, model.Binds place name := by
  rw [aliases, List.mem_filterMap]
  constructor
  · rintro ⟨fact, hfact, hname⟩
    obtain ⟨place, hplace⟩ := List.mem_iff_getElem?.1 hfact
    exact ⟨place, fact, hplace, hname⟩
  · rintro ⟨place, fact, hplace, hname⟩
    exact ⟨fact, List.mem_of_getElem? hplace, hname⟩

/-- Every alias stays with its fact, behind the start. -/
theorem binds_started :
    (model.started start).Binds place name ↔
      ∃ old, model.Binds place old ∧ name = start ++ old := by
  simp only [Binds, started, List.getElem?_map, Option.map_eq_some_iff]
  constructor
  · rintro ⟨_, ⟨fact, hfact, rfl⟩, hname⟩
    obtain ⟨old, hold, rfl⟩ := Option.map_eq_some_iff.1 hname
    exact ⟨old, ⟨fact, hfact, hold⟩, rfl⟩
  · rintro ⟨old, ⟨fact, hfact, hold⟩, rfl⟩
    exact ⟨_, ⟨fact, hfact, rfl⟩, by simp [hold]⟩

theorem aliases_started : (model.started start).aliases = model.aliases.map (start ++ ·) := by
  simp only [aliases, started, List.filterMap_map, List.map_filterMap]
  rfl

/-- Aliases that are told apart are still told apart behind the start. -/
theorem nodup_aliases_started : (model.started start).aliases.Nodup ↔ model.aliases.Nodup := by
  rw [aliases_started, List.nodup_map_iff fun _ _ => (String.append_right_inj start).1]

/-- The facts correspond to each other with their terms, so only what the symbols refer to can make
a difference. -/
theorem same_references_started_iff : model.SameReferences (model.started start) ↔
    ∀ name ∈ model.symbols, ∀ place,
      model.Binds place name ↔ (model.started start).Binds place name := by
  have hforall {α : Type} (R : α → α → Prop) (items : List α) :
      List.Forall₂ R items items ↔ ∀ item ∈ items, R item item :=
    List.forall₂_same
  rw [SameReferences]
  conv_lhs => rw [started]
  simp only [List.forall₂_map_right_iff, hforall, symbols, List.mem_flatMap, forall_exists_index,
    and_imp]
  exact ⟨fun h name fact hfact hname => h fact hfact name hname,
    fun h fact hfact name hname => h name fact hfact hname⟩

/-- References are kept when nothing is put before the aliases, or when no symbol is an alias, be it
before or afterwards. -/
theorem same_references_iff : model.SameReferences (model.started start) ↔
    start = "" ∨ ∀ name ∈ model.symbols,
      name ∉ model.aliases ∧ name ∉ (model.started start).aliases := by
  rw [same_references_started_iff]
  constructor
  · intro hsame
    by_cases hstart : start = ""
    · exact .inl hstart
    -- A symbol that is an alias would have to be that alias behind the start.
    have hnone : ∀ name ∈ model.symbols, name ∉ model.aliases := by
      intro name hname halias
      obtain ⟨place, hplace⟩ := mem_aliases_iff.1 halias
      obtain ⟨old, hold, heq⟩ := binds_started.1 ((hsame name hname place).1 hplace)
      obtain rfl : name = old := hplace.unique hold
      exact hstart (String.append_eq_right_iff.1 heq.symm)
    refine .inr fun name hname => ⟨hnone name hname, fun halias => ?_⟩
    obtain ⟨place, hplace⟩ := mem_aliases_iff.1 halias
    exact hnone name hname (mem_aliases_iff.2 ⟨place, (hsame name hname place).2 hplace⟩)
  · rintro (rfl | hnone) name hname place
    · simp [binds_started]
    · obtain ⟨hbefore, hafter⟩ := hnone name hname
      rw [mem_aliases_iff, not_exists] at hbefore hafter
      exact iff_of_false (hbefore place) (hafter place)

end Model

namespace ApplyResult

/-- Extraction puts the start before the aliases and changes nothing else: names, domain, facts and
their terms stay as they are, and aliases are told apart as before. So references are kept exactly
when nothing is put before the aliases, or when no symbol is an alias before or afterwards. -/
theorem extraction_renames_aliases {result : ApplyResult} {module : String} {model : Model}
    (h : result.outputs.lookup module = some model) (program : ProgramName) (start : String) :
    ∃ extracted,
      result.extract? module program start = some ((Program.named program).withModel extracted) ∧
      extracted.name = model.name ∧ extracted.domain = model.domain ∧
      extracted.facts.map Fact.term = model.facts.map Fact.term ∧
      (∀ place name, extracted.Binds place name ↔
        ∃ old, model.Binds place old ∧ name = start ++ old) ∧
      (extracted.aliases.Nodup ↔ model.aliases.Nodup) ∧
      (model.SameReferences extracted ↔ start = "" ∨ ∀ name ∈ model.symbols,
        name ∉ model.aliases ∧ name ∉ extracted.aliases) := by
  refine ⟨model.started start, ?_, rfl, rfl, ?_, fun place name => Model.binds_started,
    Model.nodup_aliases_started, Model.same_references_iff⟩
  · rw [extract?, h]
    rfl
  · rw [Model.started, List.map_map]
    rfl

/-- A function and a fact that refers to it. -/
def calling : Model :=
  ⟨"main_p_CModel", .named "C",
    [⟨some "f", .apply "FunDef" []⟩, ⟨some "g", .apply "Call" [.symbol "f"]⟩]⟩

/-- The result of a transform that makes this model only. -/
def callingResult : ApplyResult :=
  empty.withOutput calling

theorem lookup_calling : callingResult.outputs.lookup "main_p_CModel" = some calling := by
  simp [callingResult, withOutput, empty, place, calling]

/-- The program that they are extracted to. -/
def callingProgram : ProgramName :=
  ⟨(Path.ofString "/out/main_p_CModel.model").components.foldl ProgramName.walk []⟩

/-- What holds of every extraction, for a model whose second fact refers to its first one. -/
theorem extraction_renames_aliases_of_call :
    callingResult.outputs.lookup "main_p_CModel" = some calling ∧ ∃ extracted,
      callingResult.extract? "main_p_CModel" callingProgram "p_compiler__" =
        some ((Program.named callingProgram).withModel extracted) ∧
      extracted.name = calling.name ∧ extracted.domain = calling.domain ∧
      extracted.facts.map Fact.term = calling.facts.map Fact.term ∧
      (∀ place name, extracted.Binds place name ↔
        ∃ old, calling.Binds place old ∧ name = "p_compiler__" ++ old) ∧
      (extracted.aliases.Nodup ↔ calling.aliases.Nodup) ∧
      (calling.SameReferences extracted ↔ "p_compiler__" = "" ∨ ∀ name ∈ calling.symbols,
        name ∉ calling.aliases ∧ name ∉ extracted.aliases) :=
  ⟨lookup_calling, extraction_renames_aliases lookup_calling callingProgram "p_compiler__"⟩

/-- The symbol that refers to the function is an alias of no fact any more when the function has got
another alias. -/
theorem reference_is_lost_in_extraction :
    calling.aliases.Nodup ∧ ∃ extracted,
      callingResult.extract? "main_p_CModel" callingProgram "p_compiler__" =
        some ((Program.named callingProgram).withModel extracted) ∧
      extracted.print = "model main_p_CModel of C\n\x7b\n" ++
        "  p_compiler__f is FunDef().\n  p_compiler__g is Call(f).\n\x7d" ∧
      calling.symbols = ["f"] ∧ extracted.symbols = ["f"] ∧
      calling.Binds 0 "f" ∧ (∀ place, ¬extracted.Binds place "f") ∧
      ¬calling.SameReferences extracted := by
  have hbinds : calling.Binds 0 "f" := ⟨_, rfl, rfl⟩
  have hsymbols : calling.symbols = ["f"] := rfl
  have hlost (place : Nat) : ¬(calling.started "p_compiler__").Binds place "f" := by
    rw [Model.binds_started]
    rintro ⟨old, -, heq⟩
    have hhead := congrArg (fun text => text.toList.head?) heq
    simp at hhead
  refine ⟨by decide, calling.started "p_compiler__", ?_, by decide, hsymbols, ?_, hbinds, hlost, ?_⟩
  · rw [extract?, lookup_calling]
    rfl
  · rw [← hsymbols]
    rfl
  · rw [Model.same_references_started_iff]
    exact fun hsame => hlost 0 ((hsame "f" (hsymbols ▸ List.mem_singleton.2 rfl) 0).1 hbinds)

end ApplyResult

end Engine

end MachineCompiler
