import MachineCompiler.Proofs.Text.Quoting
import MachineCompiler.Term

/-!
# Printed terms are told apart

A term whose symbols and functors are identifiers can be told from its printed form, up to the
regions of its applications, which are not printed. The printed form also shows where it ends, when
what follows it begins like what stands behind a term in a longer printed form. Texts may hold
anything.
-/

namespace MachineCompiler

namespace Text

/-! ## Where a run of characters ends -/

/-- Two runs of elements with a property, each followed by something else, are told apart. -/
theorem append_inj_of_stops {α : Type} {p : α → Bool} {first second rest rest' : List α}
    (hfirst : ∀ x ∈ first, p x = true) (hsecond : ∀ x ∈ second, p x = true)
    (hrest : ∀ x ∈ rest.head?, p x = false) (hrest' : ∀ x ∈ rest'.head?, p x = false)
    (h : first ++ rest = second ++ rest') : first = second ∧ rest = rest' := by
  induction first generalizing second with
  | nil =>
    cases second with
    | nil => exact ⟨rfl, h⟩
    | cons y second =>
      have hy := hrest y (by simp_all)
      simp [hsecond y List.mem_cons_self] at hy
  | cons x first ih =>
    obtain ⟨hx, hfirst⟩ := List.forall_mem_cons.1 hfirst
    cases second with
    | nil =>
      have hstop := hrest' x (by rw [← List.nil_append rest', ← h]; rfl)
      simp [hx] at hstop
    | cons y second =>
      obtain ⟨rfl, htail⟩ := List.cons.inj h
      obtain ⟨hsame, hends⟩ := ih hfirst (List.forall_mem_cons.1 hsecond).2 htail
      exact ⟨by rw [hsame], hends⟩

/-- An identifier: letters, digits and underscores, of which the first is no digit. -/
structure IsIdentifier (name : String) : Prop where
  nonempty : name ≠ ""
  characters : ∀ c ∈ name.toList, isIdentifierChar c = true
  begins : ∀ c ∈ name.toList.head?, c.isDigit = false

instance (name : String) : Decidable (IsIdentifier name) :=
  decidable_of_iff
    (name ≠ "" ∧ name.toList.all isIdentifierChar = true ∧
      name.toList.head?.any Char.isDigit = false)
    ⟨fun ⟨hnonempty, hcharacters, hbegins⟩ =>
      ⟨hnonempty, List.all_eq_true.1 hcharacters, (Option.any_eq_false _ _).1 hbegins⟩,
    fun ⟨hnonempty, hcharacters, hbegins⟩ =>
      ⟨hnonempty, List.all_eq_true.2 hcharacters, (Option.any_eq_false _ _).2 hbegins⟩⟩

/-- The characters that stand behind a term in printed forms. -/
def closers : List Char := [',', ')', '.', ' ']

/-- What follows a term in a printed form. -/
def Closes (rest : List Char) : Prop :=
  ∀ c ∈ rest.head?, c ∈ closers

theorem Closes.nil : Closes [] := nofun

theorem Closes.cons {c : Char} {rest : List Char} (h : c ∈ closers) : Closes (c :: rest) := by
  rintro d ⟨⟩
  exact h

/-- What follows a term does not begin with a character of a class without closers. -/
theorem Closes.ends {p : Char → Bool} {rest : List Char} (h : Closes rest)
    (hclosers : closers.any p = false) : ∀ c ∈ rest.head?, p c = false := by
  rw [List.any_eq_false] at hclosers
  exact fun c hc => Bool.eq_false_iff.2 (hclosers c (h c hc))

/-- No identifier goes on with what follows a term. -/
theorem Closes.ends_identifier {rest : List Char} (h : Closes rest) :
    ∀ c ∈ rest.head?, isIdentifierChar c = false :=
  h.ends (by decide +kernel)

/-- Identifiers with text behind them are told apart. -/
theorem identifier_append_inj {first second : String} {rest rest' : List Char}
    (hfirst : IsIdentifier first) (hsecond : IsIdentifier second)
    (hrest : ∀ c ∈ rest.head?, isIdentifierChar c = false)
    (hrest' : ∀ c ∈ rest'.head?, isIdentifierChar c = false)
    (h : first.toList ++ rest = second.toList ++ rest') : first = second ∧ rest = rest' := by
  obtain ⟨hsame, hends⟩ :=
    append_inj_of_stops hfirst.characters hsecond.characters hrest hrest' h
  exact ⟨String.toList_inj.1 hsame, hends⟩

/-! ## Numbers -/

/-- A character of a printed number. -/
def isNumberChar (c : Char) : Bool :=
  c.isDigit || c == '-'

theorem digits_of_repr {n : Nat} {c : Char} (h : c ∈ n.repr.toList) : c.isDigit = true := by
  rw [Nat.toList_repr] at h
  exact Nat.isDigit_of_mem_toDigits (by decide) (by decide) h

/-- The printed form of a number, with its sign apart. -/
theorem number_print (value : Int) :
    (toString value).toList =
      if 0 ≤ value then value.natAbs.repr.toList else '-' :: value.natAbs.repr.toList := by
  rw [Int.toString_eq_repr, Int.repr_eq_if]
  split
  · rw [show value.toNat = value.natAbs by omega]
  · rw [show (-value).toNat = value.natAbs by omega, String.toList_append]
    rfl

theorem number_characters (value : Int) : ∀ c ∈ (toString value).toList, isNumberChar c = true := by
  have hdigits : ∀ c ∈ value.natAbs.repr.toList, isNumberChar c = true := fun c hc => by
    rw [isNumberChar, digits_of_repr hc, Bool.true_or]
  rw [number_print]
  split
  · exact hdigits
  · exact List.forall_mem_cons.2 ⟨rfl, hdigits⟩

theorem number_ne_nil (value : Int) : (toString value).toList ≠ [] := by
  rw [number_print]
  split
  · rw [Nat.toList_repr]
    exact Nat.toDigits_ne_nil
  · exact List.cons_ne_nil _ _

theorem natural_inj {m n : Nat} (h : m.repr.toList = n.repr.toList) : m = n := by
  rw [Nat.toList_repr, Nat.toList_repr] at h
  rw [← Nat.ofDigitChars_ten_toDigits (n := m), h, Nat.ofDigitChars_ten_toDigits]

theorem number_inj {first second : Int} (h : (toString first).toList = (toString second).toList) :
    first = second := by
  have hsign (m n : Nat) : m.repr.toList ≠ '-' :: n.repr.toList := fun hminus =>
    absurd (digits_of_repr (n := m) (by rw [hminus]; exact List.mem_cons_self)) (by decide)
  rw [number_print, number_print] at h
  split at h <;> split at h
  · have := natural_inj h
    omega
  · exact absurd h (hsign _ _)
  · exact absurd h.symm (hsign _ _)
  · have := natural_inj (List.cons.inj h).2
    omega

/-- Numbers with text behind them are told apart. -/
theorem number_append_inj {first second : Int} {rest rest' : List Char} (hrest : Closes rest)
    (hrest' : Closes rest')
    (h : (toString first).toList ++ rest = (toString second).toList ++ rest') :
    first = second ∧ rest = rest' := by
  have hclosers : closers.any isNumberChar = false := by decide
  obtain ⟨hsame, hends⟩ := append_inj_of_stops (number_characters first)
    (number_characters second) (hrest.ends hclosers) (hrest'.ends hclosers) h
  exact ⟨number_inj hsame, hends⟩

end Text

namespace Term

open Text

/-! ## Terms -/

mutual

/-- The term without the regions of its applications. -/
def bare : Term → Term
  | .app functor arguments _ => apply functor (bareAll arguments)
  | constant => constant

/-- The terms of a list, without regions. -/
def bareAll : List Term → List Term
  | [] => []
  | term :: rest => bare term :: bareAll rest

end

mutual

/-- The symbols and functors in the term are identifiers. -/
def IsWellNamed : Term → Prop
  | .symbol name => IsIdentifier name
  | .app functor arguments _ => IsIdentifier functor ∧ AllWellNamed arguments
  | _ => True

/-- The symbols and functors in every term of the list are identifiers. -/
def AllWellNamed : List Term → Prop
  | [] => True
  | term :: rest => IsWellNamed term ∧ AllWellNamed rest

end

theorem print_all_cons_cons (term next : Term) (rest : List Term) :
    printAll (term :: next :: rest) = print term ++ ", " ++ printAll (next :: rest) :=
  rfl

mutual

/-- Regions are not printed. -/
theorem print_bare : ∀ term : Term, term.bare.print = term.print
  | .text _ | .number _ | .symbol _ => rfl
  | .app functor arguments _ => by rw [bare, apply, print, print, print_all_bare arguments]

theorem print_all_bare : ∀ terms : List Term, printAll (bareAll terms) = printAll terms
  | [] => rfl
  | [term] => print_bare term
  | term :: next :: rest => by
    have hrest := print_all_bare (next :: rest)
    simp only [bareAll] at hrest ⊢
    rw [print_all_cons_cons, print_all_cons_cons, print_bare term, hrest]

end

theorem app_print (functor : String) (arguments : List Term) (span : Span) (more : List Char) :
    (app functor arguments span).print.toList ++ more =
      functor.toList ++ '(' :: ((printAll arguments).toList ++ ')' :: more) := by
  rw [print]
  simp [String.toList_append]

/-! ## How printed terms begin -/

/-- What the first character of a printed term tells. Symbols and applications begin alike. -/
inductive Shape where
  | text
  | number
  | name
deriving DecidableEq

/-- What a character begins, if it begins a term at all. -/
def shapeOf (c : Char) : Option Shape :=
  if isIdentifierChar c && !c.isDigit then some .name
  else if isNumberChar c then some .number
  else if c == '"' then some .text
  else none

/-- What a term looks like when it is printed. -/
def shape : Term → Shape
  | .text _ => .text
  | .number _ => .number
  | .symbol _ | .app .. => .name

theorem shape_of_identifier {name : String} (h : IsIdentifier name) (rest : List Char) :
    (name.toList ++ rest).head?.bind shapeOf = some .name := by
  obtain ⟨hnonempty, hcharacters, hbegins⟩ := h
  rw [Ne, ← String.toList_eq_nil_iff] at hnonempty
  cases hname : name.toList with
  | nil => exact absurd hname hnonempty
  | cons c others =>
    rw [hname] at hcharacters hbegins
    simp [shapeOf, hcharacters c List.mem_cons_self, hbegins c rfl]

theorem shape_of_number_char {c : Char} (h : isNumberChar c = true) :
    shapeOf c = some .number := by
  have hminus : isIdentifierChar '-' = false := by decide +kernel
  have hname : (isIdentifierChar c && !c.isDigit) = false := by
    rcases Bool.or_eq_true_iff.1 h with hdigit | hsign
    · rw [hdigit, Bool.not_true, Bool.and_false]
    · rw [beq_iff_eq.1 hsign, hminus, Bool.false_and]
  rw [shapeOf, hname, h]
  rfl

/-- A printed term is not empty, and its first character tells its shape. -/
theorem print_shape {term : Term} (h : term.IsWellNamed) (rest : List Char) :
    (term.print.toList ++ rest).head?.bind shapeOf = some term.shape := by
  cases term with
  | text value =>
    rw [print, quoted, String.toList_ofList]
    show shapeOf '"' = some .text
    decide +kernel
  | number value =>
    have hcharacters := number_characters value
    rw [print]
    cases hvalue : (toString value).toList with
    | nil => exact absurd hvalue (number_ne_nil value)
    | cons c others =>
      rw [hvalue] at hcharacters
      exact shape_of_number_char (hcharacters c List.mem_cons_self)
  | symbol name => exact shape_of_identifier h rest
  | app functor arguments span =>
    rw [app_print]
    exact shape_of_identifier h.1 _

/-- Terms that are printed alike have the same shape. -/
theorem shape_eq {first second : Term} {rest rest' : List Char} (hfirst : first.IsWellNamed)
    (hsecond : second.IsWellNamed)
    (h : first.print.toList ++ rest = second.print.toList ++ rest') :
    first.shape = second.shape := by
  have hshape := print_shape hfirst rest
  rw [h, print_shape hsecond rest'] at hshape
  exact (Option.some.inj hshape).symm

/-! ## Printed terms and what follows them -/

/-- What stands behind an argument: the arguments after it, the parenthesis and what follows. -/
def behind : List Term → List Char → List Char
  | [], more => ')' :: more
  | term :: rest, more => ',' :: ' ' :: (term.print.toList ++ behind rest more)

theorem print_all_cons (term : Term) (rest : List Term) (more : List Char) :
    (printAll (term :: rest)).toList ++ ')' :: more = term.print.toList ++ behind rest more := by
  induction rest generalizing term with
  | nil => rfl
  | cons next rest ih =>
    rw [print_all_cons_cons, String.toList_append, List.append_assoc, ih, String.toList_append,
      List.append_assoc]
    rfl

theorem closes_behind (rest : List Term) (more : List Char) : Closes (behind rest more) := by
  cases rest <;> exact .cons (by decide)

theorem parenthesis_ends_identifier (more : List Char) :
    ∀ c ∈ ('(' :: more).head?, isIdentifierChar c = false := by
  rintro c ⟨⟩
  decide +kernel

/-- A symbol is told from an application by the parenthesis. -/
theorem symbol_print_ne {name functor : String} {arguments : List Term} {span : Span}
    {rest rest' : List Char} (hname : IsIdentifier name) (hfunctor : IsIdentifier functor)
    (hrest : Closes rest) :
    (symbol name).print.toList ++ rest ≠ (app functor arguments span).print.toList ++ rest' := by
  intro h
  rw [app_print, print] at h
  obtain ⟨-, hends⟩ := identifier_append_inj hname hfunctor hrest.ends_identifier
    (parenthesis_ends_identifier _) h
  exact absurd (hrest '(' (by rw [hends]; rfl)) (by decide)

/-- The end of a list of arguments is told from an argument. -/
theorem no_arguments_print_ne {term : Term} {rest : List Term} {more more' : List Char}
    (h : term.IsWellNamed) :
    (printAll []).toList ++ ')' :: more ≠ (printAll (term :: rest)).toList ++ ')' :: more' := by
  have hparenthesis : shapeOf ')' = none := by decide +kernel
  intro heq
  have hshape := print_shape h (behind rest more')
  rw [← print_all_cons, ← heq] at hshape
  exact nomatch hparenthesis.symm.trans hshape

-- The recursion is on the first term. What follows the terms stays general, because behind an
-- argument stand the arguments after it.
mutual

/-- A printed term shows where it ends and which term it is, up to regions. -/
theorem print_append_inj : ∀ (first second : Term) {rest rest' : List Char},
    first.IsWellNamed → second.IsWellNamed → Closes rest → Closes rest' →
    first.print.toList ++ rest = second.print.toList ++ rest' →
    first.bare = second.bare ∧ rest = rest'
  | .text first, .text second => fun _ _ _ _ h => by
    obtain ⟨rfl, hends⟩ := quoted_append_inj h
    exact ⟨rfl, hends⟩
  | .number first, .number second => fun _ _ hrest hrest' h => by
    obtain ⟨rfl, hends⟩ := number_append_inj hrest hrest' h
    exact ⟨rfl, hends⟩
  | .symbol first, .symbol second => fun hfirst hsecond hrest hrest' h => by
    obtain ⟨rfl, hends⟩ :=
      identifier_append_inj hfirst hsecond hrest.ends_identifier hrest'.ends_identifier h
    exact ⟨rfl, hends⟩
  | .app f as r, .app g bs s => fun ⟨hf, has⟩ ⟨hg, hbs⟩ _ _ h => by
    rw [app_print, app_print] at h
    obtain ⟨rfl, hopened⟩ := identifier_append_inj hf hg (parenthesis_ends_identifier _)
      (parenthesis_ends_identifier _) h
    obtain ⟨hsame, hends⟩ := print_all_append_inj as bs has hbs (List.cons.inj hopened).2
    exact ⟨by rw [bare, bare, hsame], hends⟩
  | .symbol _, .app .. => fun hfirst hsecond hrest _ h =>
    absurd h (symbol_print_ne hfirst hsecond.1 hrest)
  | .app .., .symbol _ => fun hfirst hsecond _ hrest' h =>
    absurd h.symm (symbol_print_ne hsecond hfirst.1 hrest')
  -- All other pairs begin with characters of different shapes.
  | .text _, .number _ | .text _, .symbol _ | .text _, .app ..
  | .number _, .text _ | .number _, .symbol _ | .number _, .app ..
  | .symbol _, .text _ | .symbol _, .number _
  | .app .., .text _ | .app .., .number _ => fun hfirst hsecond _ _ h =>
    Shape.noConfusion (shape_eq hfirst hsecond h)

/-- Printed arguments show where they end and which they are, up to regions. -/
theorem print_all_append_inj : ∀ (first second : List Term) {rest rest' : List Char},
    AllWellNamed first → AllWellNamed second →
    (printAll first).toList ++ ')' :: rest = (printAll second).toList ++ ')' :: rest' →
    bareAll first = bareAll second ∧ rest = rest'
  | [], [] => fun _ _ h => ⟨rfl, (List.cons.inj h).2⟩
  | a :: as, b :: bs => fun ⟨ha, has⟩ ⟨hb, hbs⟩ h => by
    rw [print_all_cons, print_all_cons] at h
    obtain ⟨hhead, hbehind⟩ :=
      print_append_inj a b ha hb (closes_behind as _) (closes_behind bs _) h
    obtain ⟨htail, hends⟩ := behind_inj as bs has hbs hbehind
    exact ⟨by rw [bareAll, bareAll, hhead, htail], hends⟩
  | [], _ :: _ => fun _ hsecond h => absurd h (no_arguments_print_ne hsecond.1)
  | _ :: _, [] => fun hfirst _ h => absurd h.symm (no_arguments_print_ne hfirst.1)

theorem behind_inj : ∀ (first second : List Term) {rest rest' : List Char},
    AllWellNamed first → AllWellNamed second → behind first rest = behind second rest' →
    bareAll first = bareAll second ∧ rest = rest'
  | [], [] => fun _ _ h => ⟨rfl, (List.cons.inj h).2⟩
  | a :: as, b :: bs => fun ⟨ha, has⟩ ⟨hb, hbs⟩ h => by
    obtain ⟨hhead, hbehind⟩ := print_append_inj a b ha hb (closes_behind as _)
      (closes_behind bs _) (List.cons.inj (List.cons.inj h).2).2
    obtain ⟨htail, hends⟩ := behind_inj as bs has hbs hbehind
    exact ⟨by rw [bareAll, bareAll, hhead, htail], hends⟩
  | [], _ :: _ | _ :: _, [] => fun _ _ h => absurd (List.cons.inj h).1 (by decide)

end

end Term

end MachineCompiler
