import MachineCompiler.Engine.Model
import MachineCompiler.Proofs.Term.Printing

/-!
# Printed models are told apart

The printed form of a model is a heading and a line for each fact. The heading shows where its names
end, and so does each line, because a term is told apart together with the full stop behind it. Two
models are therefore printed alike only if they are the same up to regions.
-/

namespace MachineCompiler.Engine

open Text

/-! ## Modules -/

namespace ModuleRef

/-- What follows the name in the printed form of a module. -/
def place (reference : ModuleRef) : List Char :=
  match reference.location with
  | some location => ' ' :: 'a' :: 't' :: ' ' :: (quoted location).toList
  | none => []

theorem print_eq (reference : ModuleRef) :
    reference.print.toList = reference.name.toList ++ reference.place := by
  obtain ⟨name, _ | location⟩ := reference
  · exact (List.append_nil _).symm
  · rw [print, String.toList_append, String.toList_append, List.append_assoc]
    rfl

/-- A printed module is told apart together with the lines behind it. The location is quoted and may
be any text. -/
theorem print_append_inj {first second : ModuleRef} {rest rest' : List Char}
    (hfirst : IsIdentifier first.name) (hsecond : IsIdentifier second.name)
    (h : first.print.toList ++ '\n' :: rest = second.print.toList ++ '\n' :: rest') :
    first = second ∧ rest = rest' := by
  have hends (reference : ModuleRef) (rest : List Char) :
      ∀ c ∈ (reference.place ++ '\n' :: rest).head?, isIdentifierChar c = false := by
    obtain ⟨_, _ | _⟩ := reference <;> rintro c ⟨⟩ <;> decide +kernel
  rw [print_eq, print_eq, List.append_assoc, List.append_assoc] at h
  obtain ⟨hname, hplace⟩ := identifier_append_inj hfirst hsecond (hends _ _) (hends _ _) h
  obtain ⟨name, location⟩ := first
  obtain ⟨name', location'⟩ := second
  obtain rfl : name = name' := hname
  cases location with
  | none =>
    cases location' with
    | none => exact ⟨rfl, (List.cons.inj hplace).2⟩
    | some _ => exact absurd (List.cons.inj hplace).1 (by decide)
  | some location =>
    cases location' with
    | none => exact absurd (List.cons.inj hplace).1 (by decide)
    | some location' =>
      simp only [place, List.cons_append, List.cons.injEq, true_and] at hplace
      obtain ⟨rfl, hrest⟩ := quoted_append_inj hplace
      exact ⟨rfl, (List.cons.inj hrest).2⟩

end ModuleRef

/-! ## Facts -/

namespace Fact

/-- The fact without regions. -/
def bare (fact : Fact) : Fact :=
  { fact with term := fact.term.bare }

/-- The names in a fact are identifiers. -/
structure IsWellNamed (fact : Fact) : Prop where
  binding : ∀ name ∈ fact.binding, IsIdentifier name
  term : fact.term.IsWellNamed

theorem line_bare (fact : Fact) : fact.bare.line = fact.line := by
  rw [line, line, bare, Term.print_bare]

/-- The line of a fact with its characters apart. The alias stands there like a symbol. -/
theorem line_append (fact : Fact) (rest : List Char) :
    fact.line.toList ++ rest =
      ' ' :: ' ' :: match fact.binding with
        | some name => (Term.symbol name).print.toList ++
            ' ' :: 'i' :: 's' :: ' ' :: (fact.term.print.toList ++ '.' :: '\n' :: rest)
        | none => fact.term.print.toList ++ '.' :: '\n' :: rest := by
  obtain ⟨_ | name, term⟩ := fact <;> simp [line, Term.print]

/-- A term with the full stop behind it shows which term it is. -/
theorem stopped_inj {first second : Term} {rest rest' : List Char} (hfirst : first.IsWellNamed)
    (hsecond : second.IsWellNamed) (h : first.print.toList ++ '.' :: '\n' :: rest =
      second.print.toList ++ '.' :: '\n' :: rest') :
    first.bare = second.bare ∧ rest = rest' := by
  obtain ⟨hsame, hends⟩ := Term.print_append_inj first second hfirst hsecond
    (.cons (by decide)) (.cons (by decide)) h
  exact ⟨hsame, (List.cons.inj (List.cons.inj hends).2).2⟩

/-- An alias is told from a term by the blank behind it. -/
theorem bound_ne_stopped {name : String} {term : Term} {rest rest' : List Char}
    (hname : IsIdentifier name) (hterm : term.IsWellNamed) :
    (Term.symbol name).print.toList ++ ' ' :: rest ≠ term.print.toList ++ '.' :: rest' := by
  intro h
  obtain ⟨-, hends⟩ := Term.print_append_inj (.symbol name) term hname hterm
    (.cons (by decide)) (.cons (by decide)) h
  exact absurd (List.cons.inj hends).1 (by decide)

/-- The line of a fact shows where it ends and which fact it is. -/
theorem line_append_inj {first second : Fact} {rest rest' : List Char}
    (hfirst : first.IsWellNamed) (hsecond : second.IsWellNamed)
    (h : first.line.toList ++ rest = second.line.toList ++ rest') :
    first.bare = second.bare ∧ rest = rest' := by
  obtain ⟨binding, term⟩ := first
  obtain ⟨binding', term'⟩ := second
  rw [line_append, line_append] at h
  replace h := (List.cons.inj (List.cons.inj h).2).2
  cases binding with
  | none =>
    cases binding' with
    | none =>
      obtain ⟨hterm, hends⟩ := stopped_inj hfirst.term hsecond.term h
      exact ⟨by rw [bare, bare, hterm], hends⟩
    | some name' =>
      exact absurd h.symm (bound_ne_stopped (hsecond.binding name' rfl) hfirst.term)
  | some name =>
    cases binding' with
    | none => exact absurd h (bound_ne_stopped (hfirst.binding name rfl) hsecond.term)
    | some name' =>
      obtain ⟨hname, hrest⟩ := Term.print_append_inj (.symbol name) (.symbol name')
        (hfirst.binding name rfl) (hsecond.binding name' rfl) (.cons (by decide))
        (.cons (by decide)) h
      obtain rfl : name = name' := Term.symbol.inj hname
      simp only [List.cons.injEq, true_and] at hrest
      obtain ⟨hterm, hends⟩ := stopped_inj hfirst.term hsecond.term hrest
      exact ⟨by rw [bare, bare, hterm], hends⟩

end Fact

/-- Lines of facts before the brace at the end show which facts they are. -/
theorem lines_inj {first second : List Fact} (hfirst : ∀ fact ∈ first, fact.IsWellNamed)
    (hsecond : ∀ fact ∈ second, fact.IsWellNamed)
    (h : (first.map Fact.line).flatMap String.toList ++ ['\x7d'] =
      (second.map Fact.line).flatMap String.toList ++ ['\x7d']) :
    first.map Fact.bare = second.map Fact.bare := by
  have hends (fact : Fact) (rest : List Char) : ['\x7d'] ≠ fact.line.toList ++ rest := by
    rw [Fact.line_append]
    exact fun h => absurd (List.cons.inj h).1 (by decide)
  induction first generalizing second with
  | nil =>
    cases second with
    | nil => rfl
    | cons other second =>
      rw [List.map_cons, List.flatMap_cons, List.append_assoc] at h
      exact absurd h (hends _ _)
  | cons fact first ih =>
    cases second with
    | nil =>
      rw [List.map_cons, List.flatMap_cons, List.append_assoc] at h
      exact absurd h.symm (hends _ _)
    | cons other second =>
      rw [List.forall_mem_cons] at hfirst hsecond
      rw [List.map_cons, List.map_cons, List.flatMap_cons, List.flatMap_cons, List.append_assoc,
        List.append_assoc] at h
      obtain ⟨hfact, hrest⟩ := Fact.line_append_inj hfirst.1 hsecond.1 h
      rw [List.map_cons, List.map_cons, hfact, ih hfirst.2 hsecond.2 hrest]

/-! ## Models -/

namespace Model

/-- The model without regions. -/
def bare (model : Model) : Model :=
  { model with facts := model.facts.map Fact.bare }

/-- The names in a model are identifiers. The location of its domain may be any text. -/
structure IsWellNamed (model : Model) : Prop where
  name : IsIdentifier model.name
  domain : IsIdentifier model.domain.name
  facts : ∀ fact ∈ model.facts, fact.IsWellNamed

theorem print_bare (model : Model) : model.bare.print = model.print := by
  have hlines : (model.facts.map Fact.bare).map Fact.line = model.facts.map Fact.line := by
    rw [List.map_map]
    exact List.map_congr_left fun fact _ => fact.line_bare
  rw [print, print, bare, hlines]

theorem print_toList (model : Model) :
    model.print.toList = "model ".toList ++ (model.name.toList ++ (" of ".toList ++
      (model.domain.print.toList ++ '\n' :: '\x7b' :: '\n' ::
        ((model.facts.map Fact.line).flatMap String.toList ++ ['\x7d'])))) := by
  simp [print, String.toList_join]

/-- Models that are printed alike are the same up to regions. -/
theorem print_inj {first second : Model} (hfirst : first.IsWellNamed)
    (hsecond : second.IsWellNamed) (h : first.print = second.print) :
    first.bare = second.bare := by
  have hblank (more : List Char) : Closes (" of ".toList ++ more) := .cons (by decide)
  rw [← String.toList_inj, print_toList, print_toList] at h
  obtain ⟨hname, hrest⟩ := identifier_append_inj hfirst.name hsecond.name
    (hblank _).ends_identifier (hblank _).ends_identifier (List.append_cancel_left h)
  obtain ⟨hdomain, hlines⟩ :=
    ModuleRef.print_append_inj hfirst.domain hsecond.domain (List.append_cancel_left hrest)
  have hfacts := lines_inj hfirst.facts hsecond.facts (List.cons.inj (List.cons.inj hlines).2).2
  rw [bare, bare, hname, hdomain, hfacts]

end Model

/-- What is printed determines what was printed. Terms whose symbols and functors are identifiers
are printed alike if and only if they are the same up to regions, whatever texts and numbers are in
them, and so are models whose names are identifiers. -/
theorem printed_alike_iff :
    (∀ first second : Term, first.IsWellNamed → second.IsWellNamed →
      (first.print = second.print ↔ first.bare = second.bare)) ∧
    (∀ first second : Model, first.IsWellNamed → second.IsWellNamed →
      (first.print = second.print ↔ first.bare = second.bare)) := by
  constructor
  · intro first second hfirst hsecond
    constructor
    · intro h
      exact (Term.print_append_inj first second hfirst hsecond .nil .nil (by rw [h])).1
    · intro h
      rw [← first.print_bare, h, second.print_bare]
  · intro first second hfirst hsecond
    constructor
    · exact Model.print_inj hfirst hsecond
    · intro h
      rw [← first.print_bare, h, second.print_bare]

/-- A call at a region. Its text looks like the end of a line, and the beginning of another. -/
def callAt (region : Span) : Term :=
  .app "Call" [.text "b\"), y).\n  g is Call(", .number (-1), .apply "Arg" [.symbol "f"]] region

/-- A model with one fact, over a domain at a location. -/
def callModel (location : Option String) : Model :=
  ⟨"main_p_CModel", ⟨"C", location⟩, [⟨some "f", callAt .unknown⟩]⟩

/-- Calls at two regions are printed alike; models over domains at two locations are not. -/
theorem printed_alike_at_call :
    ((callAt .unknown).IsWellNamed ∧ (callAt (.point none 3 5)).IsWellNamed ∧
      (callModel none).IsWellNamed ∧ (callModel (some "C at \"C\"\n")).IsWellNamed) ∧
    (callAt .unknown).print = (callAt (.point none 3 5)).print ∧
    (callModel none).print ≠ (callModel (some "C at \"C\"\n")).print := by
  have hnames : ∀ name ∈ ["Call", "Arg", "f", "main_p_CModel", "C"], IsIdentifier name := by
    decide +kernel
  have hcall (region : Span) : (callAt region).IsWellNamed := by
    simp [callAt, Term.apply, Term.IsWellNamed, Term.AllWellNamed, hnames]
  have hmodel (location : Option String) : (callModel location).IsWellNamed := by
    refine ⟨hnames _ (by simp [callModel]), hnames _ (by simp [callModel]),
      List.forall_mem_singleton.2 ⟨?_, hcall _⟩⟩
    rintro name ⟨⟩
    exact hnames _ (by simp)
  refine ⟨⟨hcall _, hcall _, hmodel _, hmodel _⟩, ?_, fun h => ?_⟩
  · exact (printed_alike_iff.1 _ _ (hcall _) (hcall _)).2 rfl
  · have hsame := (printed_alike_iff.2 _ _ (hmodel _) (hmodel _)).1 h
    exact nomatch congrArg (fun model => model.domain.location) hsame

end MachineCompiler.Engine
