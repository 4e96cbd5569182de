import MachineCompiler.Proofs.Text.WordPlaces
import MachineCompiler.Source.Line
import Mathlib.Logic.Basic

/-!
# The search for a word on a line

The search for a word finds its first occurrence that no identifier character touches, where
occurrences are taken from left to right and do not overlap. Since a word has no blanks, it is
searched for in one word of the line after the other; so the search comes to the place where the word
stands unless an earlier word of the line mentions it.
-/

namespace MachineCompiler.Source

open Text

/-- The word occurs in the text behind `before`, when occurrences are taken from left to right and
none overlaps the one before it. -/
inductive Occurs (word : List Char) : List Char → List Char → Prop where
  | here (rest : List Char) : Occurs word (word ++ rest) []
  | behind {rest before : List Char} (hoccurs : Occurs word rest before) :
      Occurs word (word ++ rest) (word ++ before)
  | later {c : Char} {rest before : List Char} (hc : ¬word <+: c :: rest)
      (hoccurs : Occurs word rest before) : Occurs word (c :: rest) (c :: before)

theorem Occurs.append_prefix {word text before : List Char} (h : Occurs word text before) :
    before ++ word <+: text := by
  induction h with
  | here rest => exact List.prefix_append word rest
  | behind _ ih =>
    rw [List.append_assoc]
    exact (List.prefix_append_right_inj _).2 ih
  | later _ _ ih => exact List.cons_prefix_cons.2 ⟨rfl, ih⟩

/-- No identifier character stands at the place. -/
def Free (place : Option Char) : Prop :=
  place.any isIdentifierChar = false

/-- An occurrence behind `before` is touched by no identifier character, where `edge` is what stands
before the text. -/
def Isolated (edge : Option Char) (text before word : List Char) : Prop :=
  Free (before.getLast?.or edge) ∧ Free (text.drop (before.length + word.length)).head?

/-- The text has an occurrence of the word that no identifier character touches. -/
def Mentions (text word : List Char) : Prop :=
  ∃ before, Occurs word text before ∧ Isolated none text before word

namespace NumberedLine

variable {word text front back before rest : List Char} {edge : Option Char} {c : Char}
  {offset skip : Nat}

/-! ## One step of the search -/

/-- Characters that belong to the occurrence found last are passed over. -/
theorem whole_word_skip :
    wholeWord? word edge offset front.length (front ++ rest) =
      wholeWord? word (front.getLast?.or edge) (offset + byteSize front) 0 rest := by
  induction front generalizing edge offset with
  | nil => rfl
  | cons c front ih =>
    rw [List.length_cons, List.cons_append, wholeWord?, ih, byte_size_cons, Nat.add_assoc,
      List.getLast?_cons]
    congr 1
    cases front.getLast? <;> rfl

/-- Where the word begins, it is found if it is not touched, and else the search goes on behind it. -/
theorem whole_word_append (hword : word ≠ []) :
    wholeWord? word edge offset 0 (word ++ rest) =
      if edge.any isIdentifierChar = false ∧ rest.head?.any isIdentifierChar = false then
        some offset
      else wholeWord? word word.getLast? (offset + byteSize word) 0 rest := by
  obtain ⟨c, letters, rfl⟩ := List.exists_cons_of_ne_nil hword
  have hskip : wholeWord? (c :: letters) (some c) (offset + c.utf8Size)
      ((c :: letters).length - 1) (letters ++ rest) =
        wholeWord? (c :: letters) (c :: letters).getLast? (offset + byteSize (c :: letters)) 0
          rest := by
    rw [List.length_cons, Nat.add_sub_cancel, whole_word_skip, byte_size_cons, Nat.add_assoc,
      List.getLast?_cons]
    congr 1
    cases letters.getLast? <;> rfl
  have hprefix : (c :: letters).isPrefixOf (c :: (letters ++ rest)) = true :=
    List.isPrefixOf_iff_prefix.2 (List.prefix_append (c :: letters) rest)
  have hrest : (c :: (letters ++ rest)).drop (c :: letters).length = rest := by
    rw [← List.cons_append, List.drop_left]
  rw [List.cons_append, wholeWord?, if_pos hprefix, hrest, hskip]
  simp only [Bool.and_eq_true, Bool.not_eq_true']

/-- Where the word does not begin, the search goes on with the next character. -/
theorem whole_word_cons (h : ¬word <+: c :: rest) :
    wholeWord? word edge offset 0 (c :: rest) =
      wholeWord? word (some c) (offset + c.utf8Size) 0 rest := by
  have hprefix : word.isPrefixOf (c :: rest) = false := by
    rwa [← Bool.not_eq_true, List.isPrefixOf_iff_prefix]
  rw [wholeWord?, hprefix]
  rfl

/-- A text is empty, or the word begins it and something follows, or the word does not begin it. -/
theorem occurrence_induction {motive : List Char → Prop} (hword : word ≠ []) (nil : motive [])
    (here : ∀ rest, motive rest → motive (word ++ rest))
    (later : ∀ c rest, ¬word <+: c :: rest → motive rest → motive (c :: rest))
    (text : List Char) : motive text := by
  induction hlength : text.length using Nat.strongRecOn generalizing text with
  | ind length ih =>
    by_cases hprefix : word <+: text
    · obtain ⟨rest, rfl⟩ := hprefix
      have hpositive := List.length_pos_iff.2 hword
      rw [List.length_append] at hlength
      exact here rest (ih rest.length (by omega) rest rfl)
    · cases text with
      | nil => exact nil
      | cons c rest =>
        rw [List.length_cons] at hlength
        exact later c rest hprefix (ih rest.length (by omega) rest rfl)

/-! ## What is found -/

theorem isolated_append :
    Isolated edge (front ++ text) (front ++ before) word ↔
      Isolated (front.getLast?.or edge) text before word := by
  rw [Isolated, Isolated, List.getLast?_append, Option.or_assoc, List.length_append, Nat.add_assoc,
    List.drop_length_add_append]

theorem isolated_word_append (hword : word ≠ []) :
    Isolated edge (word ++ text) (word ++ before) word ↔
      Isolated word.getLast? text before word := by
  obtain ⟨start, c, rfl⟩ := word.eq_nil_or_concat.resolve_left hword
  rw [isolated_append]
  simp

theorem isolated_cons :
    Isolated edge (c :: text) (c :: before) word ↔ Isolated (some c) text before word :=
  @isolated_append word text [c] before edge

theorem isolated_of_free (h : Free edge) :
    Isolated edge text before word ↔ Isolated none text before word := by
  unfold Isolated
  cases before.getLast? with
  | none => simp [Free, Free.eq_1 edge ▸ h]
  | some last => rfl

/-- What is found is an occurrence that no identifier character touches. -/
theorem exists_of_whole_word (hword : word ≠ []) {found : Nat}
    (h : wholeWord? word edge offset 0 text = some found) :
    ∃ before, Occurs word text before ∧ Isolated edge text before word ∧
      found = offset + byteSize before := by
  induction text using occurrence_induction hword generalizing edge offset with
  | nil => cases h
  | here rest ih =>
    rw [whole_word_append hword] at h
    split at h
    · rename_i hfree
      obtain rfl := Option.some.inj h
      refine ⟨[], .here rest, ⟨hfree.1, ?_⟩, rfl⟩
      rw [List.length_nil, Nat.zero_add, List.drop_left]
      exact hfree.2
    · obtain ⟨before, hoccurs, hisolated, rfl⟩ := ih h
      refine ⟨word ++ before, .behind hoccurs, (isolated_word_append hword).2 hisolated, ?_⟩
      rw [byte_size_append, Nat.add_assoc]
  | later c rest hc ih =>
    rw [whole_word_cons hc] at h
    obtain ⟨before, hoccurs, hisolated, rfl⟩ := ih h
    refine ⟨c :: before, .later hc hoccurs, isolated_cons.2 hisolated, ?_⟩
    rw [byte_size_cons, Nat.add_assoc]

/-- If there is such an occurrence, one is found. -/
theorem whole_word_ne_none (hword : word ≠ []) (hoccurs : Occurs word text before)
    (hisolated : Isolated edge text before word) :
    wholeWord? word edge offset 0 text ≠ none := by
  induction hoccurs generalizing edge offset with
  | here rest =>
    have hrest : Free ((word ++ rest).drop ([].length + word.length)).head? := hisolated.2
    rw [List.length_nil, Nat.zero_add, List.drop_left] at hrest
    rw [whole_word_append hword, if_pos ⟨hisolated.1, hrest⟩]
    exact Option.some_ne_none _
  | behind hoccurs ih =>
    rw [whole_word_append hword]
    split
    · exact Option.some_ne_none _
    · exact ih ((isolated_word_append hword).1 hisolated)
  | later hc hoccurs ih =>
    rw [whole_word_cons hc]
    exact ih (isolated_cons.1 hisolated)

theorem whole_word_eq_none_iff (hword : word ≠ []) (hedge : Free edge) :
    wholeWord? word edge offset 0 text = none ↔ ¬Mentions text word := by
  constructor
  · rintro hnone ⟨before, hoccurs, hisolated⟩
    exact whole_word_ne_none hword hoccurs ((isolated_of_free hedge).2 hisolated) hnone
  · intro hno
    cases hfound : wholeWord? word edge offset 0 text with
    | none => rfl
    | some found =>
      obtain ⟨before, hoccurs, hisolated, -⟩ := exists_of_whole_word hword hfound
      exact absurd ⟨before, hoccurs, (isolated_of_free hedge).1 hisolated⟩ hno

/-! ## One word of a line after the other -/

theorem free_blank (h : isBlank c = true) : Free (some c) :=
  not_identifier_of_blank h

theorem free_none : Free none :=
  rfl

/-- A word does not reach over a blank. -/
theorem prefix_append_blank (hword : IsWord word) (hc : isBlank c = true) :
    word <+: front ++ c :: back ↔ word <+: front := by
  constructor
  · intro h
    obtain hfront | ⟨letters, rfl⟩ := List.prefix_or_prefix_of_prefix h (List.prefix_append front _)
    · exact hfront
    · cases letters with
      | nil => simp
      | cons letter letters =>
        have hletter := (List.cons_prefix_cons.1 ((List.prefix_append_right_inj front).1 h)).1
        have hsolid := hword.solid letter (by simp)
        rw [hletter, hc] at hsolid
        contradiction
  · intro h
    exact h.trans (List.prefix_append _ _)

/-- The search goes through the text before a blank and then through the text behind it. -/
theorem whole_word_append_blank (hword : IsWord word) (hc : isBlank c = true) :
    wholeWord? word edge offset 0 (front ++ c :: back) =
      (wholeWord? word edge offset 0 front).or
        (wholeWord? word (some c) (offset + byteSize front + c.utf8Size) 0 back) := by
  induction front using occurrence_induction hword.nonempty generalizing edge offset with
  | nil =>
    have hbegins : ¬word <+: c :: back := by
      rw [← List.nil_append (c :: back), prefix_append_blank hword hc, List.prefix_nil]
      exact hword.nonempty
    rw [List.nil_append, whole_word_cons hbegins]
    rfl
  | here rest ih =>
    have hend : (rest ++ c :: back).head?.any isIdentifierChar =
        rest.head?.any isIdentifierChar := by
      cases rest with
      | nil => exact free_blank hc
      | cons => rfl
    rw [List.append_assoc, whole_word_append hword.nonempty, whole_word_append hword.nonempty, hend]
    split
    · rfl
    · rw [ih, byte_size_append, Nat.add_assoc offset]
  | later first rest hfirst ih =>
    have hbegins : ¬word <+: first :: (rest ++ c :: back) := by
      rwa [← List.cons_append, prefix_append_blank hword hc]
    rw [List.cons_append, whole_word_cons hbegins, whole_word_cons hfirst, ih, byte_size_cons,
      Nat.add_assoc offset]

theorem mentions_append_blank (hword : IsWord word) (hc : isBlank c = true) :
    Mentions (front ++ c :: back) word ↔ Mentions front word ∨ Mentions back word := by
  have hnone (text : List Char) : wholeWord? word none 0 0 text = none ↔ ¬Mentions text word :=
    whole_word_eq_none_iff hword.nonempty free_none
  rw [← not_iff_not, ← hnone, not_or, ← hnone, whole_word_append_blank hword hc,
    Option.or_eq_none_iff, whole_word_eq_none_iff hword.nonempty (free_blank hc)]

/-- A text mentions a word if one of its words does. -/
theorem mentions_iff_words (hword : IsWord word) :
    Mentions text word ↔ ∃ earlier ∈ Text.words text, Mentions earlier word := by
  have hpiece {text : List Char} (hsolid : ∀ c ∈ text, isBlank c = false) :
      Mentions text word ↔ ∃ earlier ∈ Text.words text, Mentions earlier word := by
    rw [words_of_solid hsolid]
    by_cases hnil : text = []
    · subst hnil
      have hnone : wholeWord? word none 0 0 [] = none := rfl
      rw [whole_word_eq_none_iff hword.nonempty free_none] at hnone
      simp [hnone]
    · simp [hnil]
  induction text using piece_induction with
  | piece text hsolid => exact hpiece hsolid
  | blank front c back hsolid hc ih =>
    have hback : Mentions back word ↔ ∃ earlier ∈ Text.words back, Mentions earlier word := ih
    rw [mentions_append_blank hword hc, words_append_blank hc, hpiece hsolid, hback]
    simp only [List.mem_append, or_and_right, exists_or]

/-- The search for a word that stands in a text goes through the text before it and ends there, unless
that mentions the word. -/
theorem whole_word_of_word_at (h : WordAt text before word) (hrest : Free rest.head?) :
    wholeWord? word none 0 0 (text ++ rest) =
      (wholeWord? word none 0 0 before).or (some (byteSize before)) := by
  obtain ⟨hword, hfront, after, rfl, hback⟩ := h
  have hend : Free (after ++ rest).head? := by
    cases after with
    | nil => exact hrest
    | cons c after => exact free_blank (hback c rfl)
  have hfound {edge : Option Char} {offset : Nat} (hedge : Free edge) :
      wholeWord? word edge offset 0 (word ++ (after ++ rest)) = some offset := by
    rw [whole_word_append hword.nonempty, if_pos ⟨hedge, hend⟩]
  rw [List.append_assoc, List.append_assoc]
  obtain rfl | ⟨start, c, rfl⟩ := before.eq_nil_or_concat
  · exact hfound rfl
  · have hc := hfront c (by simp)
    rw [List.concat_eq_append, List.append_assoc, List.singleton_append,
      whole_word_append_blank hword hc, whole_word_append_blank hword hc, hfound (free_blank hc),
      byte_size_append, byte_size_cons]
    simp [wholeWord?, byteSize]

/-! ## Mentions in plain words -/

/-- A word of identifier characters only mentions itself and no other word. -/
theorem mentions_iff_eq (hplain : ∀ c ∈ text, isIdentifierChar c = true) :
    Mentions text word ↔ word = text := by
  constructor
  · rintro ⟨before, hoccurs, hfront, hback⟩
    obtain ⟨rest, rfl⟩ := hoccurs.append_prefix
    have hplace (c : Char) (hc : c ∈ before ++ word ++ rest) : ¬Free (some c) := by
      simp [Free, hplain c hc]
    have hbefore : before = [] := by
      obtain hnil | ⟨start, c, rfl⟩ := before.eq_nil_or_concat
      · exact hnil
      · exact absurd (by simpa using hfront) (hplace c (by simp))
    have hrest : rest = [] := by
      cases rest with
      | nil => rfl
      | cons c rest => exact absurd (by simpa using hback) (hplace c (by simp))
    rw [hbefore, hrest, List.nil_append, List.append_nil]
  · rintro rfl
    refine ⟨[], ?_, rfl, ?_⟩
    · have hhere : Occurs word (word ++ []) [] := .here []
      rwa [List.append_nil] at hhere
    · simp [Free]

end NumberedLine

end MachineCompiler.Source
