import MachineCompiler.Proofs.Text.Splitting
import MachineCompiler.Source.Line
import Mathlib.Data.List.Forall2

/-!
# The line notation

What the lines of a text say, independently of how they are read: a grammar of the words of a line,
and the lines that a whole text says when every line with words says one. Lines are read exactly as
the grammar has it.
-/

namespace MachineCompiler.Text

/-- A text is split where the separator occurs first. -/
theorem split_once_eq_some {separator : Char} {text before after : List Char} :
    splitOnce? separator text = some (before, after) ↔
      text = before ++ separator :: after ∧ separator ∉ before := by
  induction text generalizing before with
  | nil => simp [splitOnce?]
  | cons c rest ih =>
    rw [splitOnce?]
    split
    · rename_i hc
      subst hc
      cases before with
      | nil => simp [eq_comm]
      | cons b before => simp +contextual [eq_comm]
    · rename_i hc
      cases before with
      | nil => simp [hc]
      | cons b before =>
        rw [Option.map_eq_some_iff]
        constructor
        · rintro ⟨⟨first, last⟩, hsplit, hparts⟩
          cases hparts
          obtain ⟨rfl, hnot⟩ := ih.1 hsplit
          exact ⟨rfl, by simpa [Ne.symm hc] using hnot⟩
        · rintro ⟨hrest, hnot⟩
          obtain ⟨rfl, hrest'⟩ := List.cons.inj hrest
          exact ⟨_, ih.2 ⟨hrest', fun h => hnot (.tail _ h)⟩, rfl⟩

/-- A text is not split when the separator does not occur. -/
theorem split_once_eq_none {separator : Char} {text : List Char} :
    splitOnce? separator text = none ↔ separator ∉ text := by
  induction text with
  | nil => simp [splitOnce?]
  | cons c rest ih =>
    rw [splitOnce?]
    split
    · rename_i hc
      simp [hc]
    · rename_i hc
      simp [ih, Ne.symm hc]

end MachineCompiler.Text

namespace MachineCompiler.Source

namespace Line

/-! ## What words say -/

/-- The path has a first dot, with the owner before it and the rest after it. -/
def Divides (path owner rest : String) : Prop :=
  path = owner ++ "." ++ rest ∧ '.' ∉ owner.toList

/-- The path has no dot. -/
def Undivided (path : String) : Prop :=
  '.' ∉ path.toList

instance (path owner rest : String) : Decidable (Divides path owner rest) :=
  inferInstanceAs (Decidable (_ ∧ _))

instance (path : String) : Decidable (Undivided path) :=
  inferInstanceAs (Decidable (¬_))

/-- What the words of a line say, by themselves. -/
inductive Says : List String → Line → Prop where
  | include (path : String) : Says ["include", path] (.include (unquoted path))
  | typeDef (name : String) : Says ["type", name] (.typeDef name)
  | event (name : String) : Says ["event", name] (.event name)
  | machine (name : String) : Says ["machine", name] (.machine .real name)
  | model (name : String) : Says ["model", "machine", name] (.machine .model name)
  | spec (name : String) : Says ["spec", "machine", name] (.machine .spec name)
  | state {path owner rest : String} (hpath : Divides path owner rest) :
      Says ["state", path] (.state path owner (groups rest))
  | variable {path owner name : String} (hpath : Divides path owner name) :
      Says ["var", path] (.variable path owner name)
  | function {path owner name : String} (hpath : Divides path owner name) :
      Says ["fun", path] (.function path (some owner) name none)
  | helper {name : String} (hname : Undivided name) :
      Says ["fun", name] (.function name none name none)
  | user {path owner name used : String} (hpath : Divides path owner name) :
      Says ["fun", path, "uses", used] (.function path (some owner) name (some used))
  | helperUser {name used : String} (hname : Undivided name) :
      Says ["fun", name, "uses", used] (.function name none name (some used))

theorem owner_and_rest_eq_some {path owner rest : String} :
    ownerAndRest? path = some (owner, rest) ↔ Divides path owner rest := by
  have hlist : path = owner ++ "." ++ rest ↔
      path.toList = owner.toList ++ '.' :: rest.toList := by
    rw [← String.toList_inj]
    simp
  rw [ownerAndRest?, Divides, hlist, ← Text.split_once_eq_some]
  constructor
  · intro h
    obtain ⟨⟨before, after⟩, hsplit, hparts⟩ := Option.map_eq_some_iff.1 h
    cases hparts
    simpa using hsplit
  · intro h
    rw [h]
    simp

theorem owner_and_rest_eq_none {path : String} :
    ownerAndRest? path = none ↔ Undivided path := by
  rw [ownerAndRest?, Option.map_eq_none_iff, Text.split_once_eq_none, Undivided]

/-- A path with a dot names a function of a machine. -/
theorem function_at_of_divides {path owner name : String} {used : Option String}
    (h : Divides path owner name) :
    functionAt path used = .function path (some owner) name used := by
  rw [functionAt, owner_and_rest_eq_some.2 h]

/-- A path without a dot names a function of the whole program. -/
theorem function_at_of_undivided {path : String} {used : Option String} (h : Undivided path) :
    functionAt path used = .function path none path used := by
  rw [functionAt, owner_and_rest_eq_none.2 h]

/-- What the words say is read from them. -/
theorem of_words_of_said {words : List String} {line : Line} (h : Says words line) :
    ofWords words = .ok line := by
  cases h with
  | «include» | typeDef | event | machine | model | spec => rfl
  | state hpath | «variable» hpath => simp only [ofWords, owner_and_rest_eq_some.2 hpath]
  | function hpath | user hpath => simp only [ofWords, function_at_of_divides hpath]
  | helper hname | helperUser hname => simp only [ofWords, function_at_of_undivided hname]

/-- What is read from words is what they say. -/
theorem says_of_words {words : List String} {line : Line} (h : ofWords words = .ok line) :
    Says words line := by
  -- The words with a path that may have a dot or not are told apart by what stands before the dot.
  have hfunction {path : String} {used : Option String} {words : List String}
      (howned : ∀ owner name, Divides path owner name →
        Says words (.function path (some owner) name used))
      (hhelper : Undivided path → Says words (.function path none path used)) :
      Says words (functionAt path used) := by
    cases hparts : ownerAndRest? path with
    | none =>
      have hname := owner_and_rest_eq_none.1 hparts
      rw [function_at_of_undivided hname]
      exact hhelper hname
    | some parts =>
      have hpath := owner_and_rest_eq_some.1 hparts
      rw [function_at_of_divides hpath]
      exact howned _ _ hpath
  unfold ofWords at h
  split at h
  case h_1 => cases h; exact .include _
  case h_2 => cases h; exact .typeDef _
  case h_3 => cases h; exact .event _
  case h_4 => cases h; exact .machine _
  case h_5 word name =>
    cases hrole : role? word with
    | none => simp [hrole] at h
    | some role =>
      simp only [hrole, Except.ok.injEq] at h
      subst h
      unfold role? at hrole
      split at hrole <;> cases hrole
      · exact .model _
      · exact .spec _
  case h_6 path =>
    split at h <;> cases h
    exact .state (owner_and_rest_eq_some.1 ‹_›)
  case h_7 path =>
    split at h <;> cases h
    exact .variable (owner_and_rest_eq_some.1 ‹_›)
  case h_8 path =>
    cases h
    exact hfunction (fun _ _ => .function) .helper
  case h_9 path used =>
    cases h
    exact hfunction (fun _ _ => .user) .helperUser
  all_goals cases h

/-- Words say one line only. -/
theorem Says.unique {words : List String} {line other : Line} (h : Says words line)
    (hother : Says words other) : line = other :=
  Except.ok.inj ((of_words_of_said h).symm.trans (of_words_of_said hother))

/-! ## What a line speaks of -/

/-- The top-level name that a line declares, in its category. -/
def declared? : Line → Option (Category × String)
  | .typeDef name => some (.typeDef, name)
  | .event name => some (.event, name)
  | .machine _ name => some (.machine, name)
  | _ => none

/-- The machine that a line takes for declared. -/
def owner? : Line → Option String
  | .state _ owner _ | .variable _ owner _ => some owner
  | .function _ owner _ _ => owner
  | _ => none

/-- The path that a line includes. -/
def included? : Line → Option String
  | .include path => some path
  | _ => none

end Line

/-- Every line that takes a machine for declared comes after a line that declares it. -/
def OwnersFirst (lines : List Line) : Prop :=
  ∀ before line after, lines = before ++ line :: after → ∀ owner, line.owner? = some owner →
    ∃ role, .machine role owner ∈ before

theorem owners_first_nil : OwnersFirst [] := by
  intro before line after h
  simp at h

/-- What comes first does not depend on what follows. -/
theorem OwnersFirst.of_append {lines more : List Line} (h : OwnersFirst (lines ++ more)) :
    OwnersFirst lines := by
  rintro before line after rfl
  exact h before line (after ++ more) (by simp)

/-- One more line needs its own machine to be declared. -/
theorem OwnersFirst.append {lines : List Line} {line : Line} (h : OwnersFirst lines)
    (hline : ∀ owner, line.owner? = some owner → ∃ role, .machine role owner ∈ lines) :
    OwnersFirst (lines ++ [line]) := by
  intro before other after heq
  rcases after.eq_nil_or_concat with rfl | ⟨rest, last, rfl⟩
  · obtain ⟨rfl, hlast⟩ := List.append_inj' heq rfl
    obtain rfl := List.singleton_inj.1 hlast
    exact hline
  · rw [List.concat_eq_append, ← List.cons_append, ← List.append_assoc] at heq
    obtain ⟨rfl, -⟩ := List.append_inj' heq rfl
    exact h before other rest rfl

/-- The owners come first exactly if each line finds its own among the lines before it. -/
theorem owners_first_iff {lines : List Line} : OwnersFirst lines ↔
    ∀ n < lines.length, ∀ owner ∈ lines[n]?.bind Line.owner?,
      ∃ role ∈ [MachineRole.real, .model, .spec], .machine role owner ∈ lines.take n := by
  have hrole (role : MachineRole) : role ∈ [MachineRole.real, .model, .spec] := by
    cases role <;> simp
  constructor
  · intro h n hn owner howner
    rw [List.getElem?_eq_getElem hn] at howner
    have hlines : lines = lines.take n ++ lines[n] :: lines.drop (n + 1) := by
      rw [← List.drop_eq_getElem_cons hn, List.take_append_drop]
    obtain ⟨role, hmem⟩ := h _ _ _ hlines owner howner
    exact ⟨role, hrole role, hmem⟩
  · rintro h before line after rfl owner howner
    obtain ⟨role, -, hmem⟩ := h before.length (by simp) owner (by simpa using howner)
    exact ⟨role, by simpa using hmem⟩

instance (lines : List Line) : Decidable (OwnersFirst lines) :=
  decidable_of_iff _ owners_first_iff.symm

/-! ## What texts say -/

/-- The words of a line of text, without its comment. -/
def wordsOf (text : List Char) : List String :=
  (Text.words (Text.beforeFirst ['/', '/'] text)).map String.ofList

/-- The words of the lines of a text that have any. -/
def sentences (text : List (List Char)) : List (List String) :=
  (text.map wordsOf).filter fun words => !words.isEmpty

/-- The text says the lines: each line of it that is not blank and not only a comment says one. -/
def Reads (text : String) (lines : List Line) : Prop :=
  List.Forall₂ Line.Says (sentences (Text.lines text.toList)) lines

/-- Sentences say one list of lines only. -/
theorem says_all_unique {words : List (List String)} {lines others : List Line}
    (h : List.Forall₂ Line.Says words lines) (hothers : List.Forall₂ Line.Says words others) :
    lines = others := by
  induction h generalizing others with
  | nil =>
    cases hothers
    rfl
  | cons hsaid _ ih =>
    cases hothers with
    | cons hother hrest => rw [hsaid.unique hother, ih hrest]

end MachineCompiler.Source
