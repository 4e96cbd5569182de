import MachineCompiler.Proofs.Source.Aliases
import MachineCompiler.Source.Facts
import Mathlib.Data.List.Forall2

/-!
# Facts that are alike

Terms are compared up to a relation between regions, so that equality and the comparison that takes
names of the same program for the same are two cases of one notion. The facts of a program are seen
as one fact for each entry of its tables, and two lists of facts are alike when they are kind by
kind, because the functor of a fact tells its kind.
-/

namespace MachineCompiler

/-- Regions at the same place of the same program. -/
def Span.Same (first second : Span) : Prop := (first == second) = true

/-! ## Terms -/

namespace Term

mutual

/-- The terms are the same up to their regions, which are related. -/
def Alike (E : Span → Span → Prop) : Term → Term → Prop
  | .text a, .text b => a = b
  | .number a, .number b => a = b
  | .symbol a, .symbol b => a = b
  | .app f as r, .app g bs s => f = g ∧ AlikeAll E as bs ∧ E r s
  | _, _ => False

/-- The lists have the same length, and their terms are alike. -/
def AlikeAll (E : Span → Span → Prop) : List Term → List Term → Prop
  | [], [] => True
  | a :: as, b :: bs => Alike E a b ∧ AlikeAll E as bs
  | _, _ => False

end

mutual

theorem alike_eq_iff : ∀ first second : Term, first.Alike Eq second ↔ first = second
  | .app f as r, .app g bs s => by simp [Alike, alike_all_eq_iff as bs]
  | .text _, second | .number _, second | .symbol _, second => by cases second <;> simp [Alike]
  | .app .., .text _ | .app .., .number _ | .app .., .symbol _ => by simp [Alike]

theorem alike_all_eq_iff : ∀ first second : List Term, AlikeAll Eq first second ↔ first = second
  | [], second => by cases second <;> simp [AlikeAll]
  | _ :: _, [] => by simp [AlikeAll]
  | a :: as, b :: bs => by simp [AlikeAll, alike_eq_iff a b, alike_all_eq_iff as bs]

end

mutual

theorem alike_same_iff :
    ∀ first second : Term, first.Alike Span.Same second ↔ first.same second = true
  | .app f as r, .app g bs s => by
    simp [Alike, same, alike_all_same_iff as bs, Span.Same, and_assoc]
  | .text _, second | .number _, second | .symbol _, second => by
    cases second <;> simp [Alike, same]
  | .app .., .text _ | .app .., .number _ | .app .., .symbol _ => by simp [Alike, same]

theorem alike_all_same_iff :
    ∀ first second : List Term, AlikeAll Span.Same first second ↔ sameAll first second = true
  | [], second => by cases second <;> simp [AlikeAll, sameAll]
  | _ :: _, [] => by simp [AlikeAll, sameAll]
  | a :: as, b :: bs => by
    simp [AlikeAll, sameAll, alike_same_iff a b, alike_all_same_iff as bs]

end

variable {E : Span → Span → Prop}

@[simp] theorem alike_text {a b : String} : (text a).Alike E (text b) ↔ a = b := by
  rw [Alike]

@[simp] theorem alike_symbol {a b : String} : (symbol a).Alike E (symbol b) ↔ a = b := by
  rw [Alike]

@[simp] theorem alike_app {f g : String} {as bs : List Term} {r s : Span} :
    (app f as r).Alike E (app g bs s) ↔ f = g ∧ AlikeAll E as bs ∧ E r s := by
  rw [Alike]

@[simp] theorem alike_apply {f g : String} {as bs : List Term} :
    (apply f as).Alike E (apply g bs) ↔ f = g ∧ AlikeAll E as bs ∧ E .unknown .unknown :=
  alike_app

@[simp] theorem alike_all_nil : AlikeAll E [] [] := by
  rw [AlikeAll]
  trivial

@[simp] theorem alike_all_cons {a b : Term} {as bs : List Term} :
    AlikeAll E (a :: as) (b :: bs) ↔ a.Alike E b ∧ AlikeAll E as bs := by
  rw [AlikeAll]

/-- Terms that are alike have the same functor. -/
theorem Alike.functor {first second : Term} (h : first.Alike E second) :
    first.functor? = second.functor? := by
  cases first <;> cases second <;> simp_all [Alike, functor?]

/-- Lists of terms are alike term by term. -/
theorem alike_all_iff {first second : List Term} :
    AlikeAll E first second ↔ List.Forall₂ (Alike E) first second := by
  induction first generalizing second with
  | nil => cases second <;> simp [AlikeAll]
  | cons a as ih => cases second <;> simp [AlikeAll, ih]

end Term

/-! ## Facts -/

namespace Engine

/-- The facts have the same alias, and their terms are alike. -/
def Fact.Alike (E : Span → Span → Prop) (first second : Fact) : Prop :=
  first.binding = second.binding ∧ first.term.Alike E second.term

theorem Fact.alike_eq_iff {first second : Fact} : first.Alike Eq second ↔ first = second := by
  cases first
  cases second
  simp [Alike, Term.alike_eq_iff]

theorem Fact.all_alike_eq_iff {first second : List Fact} :
    List.Forall₂ (Fact.Alike Eq) first second ↔ first = second := by
  rw [← List.forall₂_eq_eq_eq]
  exact ⟨.imp fun _ _ => alike_eq_iff.1, .imp fun _ _ => alike_eq_iff.2⟩

theorem Fact.alike_same_iff {first second : Fact} :
    first.Alike Span.Same second ↔ (first == second) = true := by
  have hbeq : (first == second) =
      (first.binding == second.binding && first.term.same second.term) := rfl
  rw [hbeq, Alike, Term.alike_same_iff, Bool.and_eq_true, beq_iff_eq]

theorem Fact.all_alike_same_iff {first second : List Fact} :
    List.Forall₂ (Fact.Alike Span.Same) first second ↔ (first == second) = true := by
  induction first generalizing second with
  | nil => cases second <;> simp
  | cons fact rest ih => cases second <;> simp [Fact.alike_same_iff, ih]

/-- Models of one name over one domain are equal when their facts are. -/
theorem Model.beq_iff {name : String} {domain : ModuleRef} {first second : List Fact} :
    (Model.mk name domain first == Model.mk name domain second) = true ↔
      List.Forall₂ (Fact.Alike Span.Same) first second := by
  have hbeq : (Model.mk name domain first == Model.mk name domain second) =
      (name == name && (domain == domain && first == second)) := rfl
  rw [hbeq, Fact.all_alike_same_iff, beq_self_eq_true, beq_self_eq_true, Bool.true_and,
    Bool.true_and]

end Engine

/-! ## Related lists -/

/-- What is in one of two related lists is related to something in the other. -/
theorem exists_related {α β : Type} {R : α → β → Prop} {as : List α} {bs : List β} {a : α}
    (h : List.Forall₂ R as bs) (hmem : a ∈ as) : ∃ b ∈ bs, R a b := by
  induction h with
  | nil => cases hmem
  | cons hrelated _ ih =>
    obtain rfl | hrest := List.mem_cons.1 hmem
    · exact ⟨_, List.mem_cons_self, hrelated⟩
    · obtain ⟨b, hb, hab⟩ := ih hrest
      exact ⟨b, List.mem_cons_of_mem _ hb, hab⟩

/-! ## Lists made of blocks -/

section Blocks

variable {κ α τ : Type} [DecidableEq τ] {k : κ} {rest : List κ} {key : α → τ} {tag : κ → τ}

/-- The first block is what has its tag, and the other blocks are what has not. -/
theorem filter_blocks {blocks : κ → List α} (hk : tag k ∉ rest.map tag)
    (hkey : ∀ k, ∀ a ∈ blocks k, key a = tag k) :
    ((k :: rest).flatMap blocks).filter (key · = tag k) = blocks k ∧
      ((k :: rest).flatMap blocks).filter (key · ≠ tag k) = rest.flatMap blocks := by
  have hother : ∀ a ∈ rest.flatMap blocks, key a ≠ tag k := by
    intro a ha heq
    obtain ⟨other, hmem, hblock⟩ := List.mem_flatMap.1 ha
    exact hk (List.mem_map.2 ⟨other, hmem, (hkey other a hblock).symm.trans heq⟩)
  have hfirst := hkey k
  rw [List.flatMap_cons, List.filter_append, List.filter_append]
  constructor
  · rw [List.filter_eq_self.2 (by simpa using hfirst), List.filter_eq_nil_iff.2 (by simpa using hother),
      List.append_nil]
  · rw [List.filter_eq_nil_iff.2 (by simpa using hfirst), List.filter_eq_self.2 (by simpa using hother),
      List.nil_append]

/-- Lists made of blocks are related when their blocks are, if related elements have one tag. -/
theorem forall_two_blocks {R : α → α → Prop} {order : List κ} {blocks blocks' : κ → List α}
    (hnodup : (order.map tag).Nodup) (hkey : ∀ k, ∀ a ∈ blocks k, key a = tag k)
    (hkey' : ∀ k, ∀ a ∈ blocks' k, key a = tag k) (hR : ∀ a b, R a b → key a = key b) :
    List.Forall₂ R (order.flatMap blocks) (order.flatMap blocks') ↔
      ∀ k ∈ order, List.Forall₂ R (blocks k) (blocks' k) := by
  induction order with
  | nil => simp
  | cons k rest ih =>
    obtain ⟨hk, hrest⟩ := List.nodup_cons.1 hnodup
    rw [List.forall_mem_cons, ← ih hrest]
    -- The lengths of the blocks are not known to agree, so the first blocks are cut out by the tag.
    refine ⟨fun h => ?_, fun h => List.rel_append h.1 h.2⟩
    obtain ⟨hfirst, hothers⟩ := filter_blocks hk hkey
    obtain ⟨hfirst', hothers'⟩ := filter_blocks hk hkey'
    rw [← hfirst, ← hfirst', ← hothers, ← hothers']
    exact ⟨List.rel_filter (fun a b hab => by simp [hR a b hab]) h,
      List.rel_filter (fun a b hab => by simp [hR a b hab]) h⟩

end Blocks

namespace Source

open Engine (Fact)

/-- The term for a declaration. -/
def Declaration.term (naming : Program.Naming) : Declaration → Term
  | .typeDef declaration => Program.typeDefTerm declaration
  | .enumTypeDef declaration => Program.enumTypeDefTerm declaration
  | .modelType declaration => Program.modelTypeTerm declaration
  | .event declaration => Program.eventTerm declaration
  | .machine declaration => Program.machineTerm declaration
  | .state declaration => Program.stateTerm naming declaration
  | .variable declaration => Program.variableTerm naming declaration
  | .transition declaration => Program.transitionTerm naming declaration
  | .function declaration => Program.functionTerm naming declaration
  | .anonFunction declaration => Program.anonFunctionTerm naming declaration
  | .handler declaration => Program.handlerTerm naming declaration
  | .property declaration => Program.propertyTerm naming declaration

/-- The functor of the terms for declarations of a kind. -/
def Kind.functor : Kind → String
  | .typeDef => "TypeDef"
  | .enumTypeDef => "EnumTypeDef"
  | .modelType => "ModelType"
  | .event => "EventDecl"
  | .machine => "MachineDecl"
  | .state => "StateDecl"
  | .variable => "VarDecl"
  | .transition => "TransDecl"
  | .function => "FunDecl"
  | .anonFunction => "AnonFunDecl"
  | .handler => "DoDecl"
  | .property => "Annotation"

/-- The kinds in the order in which their facts are listed. -/
def factOrder : List Kind :=
  [.typeDef, .enumTypeDef, .modelType, .event, .machine, .variable, .function, .anonFunction,
    .state, .transition, .handler, .property]

namespace Program

/-- The fact for an entry of the table of a kind. -/
def factOf (naming : Naming) (kind : Kind) (entry : DeclarationId × Declaration) : Fact :=
  ⟨if kind ∈ aliasedKinds then naming ⟨kind, entry.1⟩ else none, entry.2.term naming⟩

theorem facts_under_eq (naming : Naming) (program : Program) :
    program.factsUnder naming =
      factOrder.flatMap fun kind => (program.table kind).map (factOf naming kind) := by
  simp [factsUnder, factOrder, table, Function.comp_def, factOf, aliasedKinds, bind,
    Declaration.term]

theorem functor_fact_of {program : Program} {naming : Naming} {kind : Kind}
    {entry : DeclarationId × Declaration} (h : entry ∈ program.table kind) :
    (factOf naming kind entry).term.functor? = some kind.functor := by
  obtain ⟨id, declaration⟩ := entry
  obtain rfl := kind_of_mem h
  cases declaration <;> rfl

/-- The facts of two programs are alike when they are kind by kind. -/
theorem facts_alike_iff {E : Span → Span → Prop} {first second : Program}
    {naming naming' : Naming} :
    List.Forall₂ (Fact.Alike E) (first.factsUnder naming) (second.factsUnder naming') ↔
      ∀ kind, List.Forall₂
        (fun entry entry' => (factOf naming kind entry).Alike E (factOf naming' kind entry'))
        (first.table kind) (second.table kind) := by
  have hfunctor (program : Program) (naming : Naming) (kind : Kind) :
      ∀ fact ∈ (program.table kind).map (factOf naming kind),
        fact.term.functor? = some kind.functor := by
    intro fact hfact
    obtain ⟨entry, hentry, rfl⟩ := List.mem_map.1 hfact
    exact functor_fact_of hentry
  have hlisted (kind : Kind) : kind ∈ factOrder := by cases kind <;> decide
  have htags : (factOrder.map fun kind => some kind.functor).Nodup := by decide
  rw [facts_under_eq, facts_under_eq, forall_two_blocks htags (hfunctor first naming)
    (hfunctor second naming') fun _ _ h => h.2.functor]
  simp only [hlisted, forall_const, List.forall₂_map_left_iff, List.forall₂_map_right_iff]

end Program

end Source

end MachineCompiler
