import MachineCompiler.Proofs.Text.Splitting

/-!
# Where the words of a text stand

A word stands between blanks or the ends of the text. Every word that a text is taken apart into
stands somewhere, behind exactly the words before it, and how far it is from the beginning is counted
in bytes.
-/

namespace MachineCompiler.Text

variable {text front back before word : List Char} {c : Char}

/-! ## Numbers of bytes -/

theorem byte_size_append : byteSize (front ++ back) = byteSize front + byteSize back := by
  simp only [byteSize, ← List.sum_eq_foldl, List.map_append, List.sum_append]

theorem byte_size_cons : byteSize (c :: text) = c.utf8Size + byteSize text := by
  simp only [byteSize, ← List.sum_eq_foldl, List.map_cons, List.sum_cons]

theorem byte_size_pos (h : text ≠ []) : 0 < byteSize text := by
  obtain ⟨c, rest, rfl⟩ := List.exists_cons_of_ne_nil h
  have := c.utf8Size_pos
  rw [byte_size_cons]
  omega

/-! ## Words and blanks -/

theorem exists_range_of_holds {ranges : Unicode.Ranges} {code : Nat}
    (h : ranges.holds code = true) : ∃ range ∈ ranges, range.1 ≤ code ∧ code ≤ range.2 := by
  induction ranges with
  | nil => cases h
  | cons range rest ih =>
    obtain ⟨first, last⟩ := range
    rw [Unicode.Ranges.holds] at h
    split at h
    · cases h
    · rename_i hfirst
      rw [Bool.or_eq_true, decide_eq_true_eq] at h
      obtain hlast | hrest := h
      · exact ⟨_, List.mem_cons_self, Nat.not_lt.1 hfirst, hlast⟩
      · obtain ⟨range, hmem, hrange⟩ := ih hrest
        exact ⟨range, List.mem_cons_of_mem _ hmem, hrange⟩

/-- A blank stands in no identifier. -/
theorem not_identifier_of_blank (h : isBlank c = true) : isIdentifierChar c = false := by
  have hblanks : ∀ range ∈ Unicode.whiteSpace,
      ∀ code ∈ List.range' range.1 (range.2 + 1 - range.1),
        Unicode.alphabetic.holds code = false ∧ Unicode.numeric.holds code = false ∧
          code ≠ '_'.toNat := by
    decide +kernel
  obtain ⟨range, hmem, hfirst, hlast⟩ := exists_range_of_holds h
  obtain ⟨hletter, hnumber, hne⟩ :=
    hblanks range hmem c.toNat (List.mem_range'_1.2 ⟨hfirst, by omega⟩)
  have hunderscore : (c == '_') = false := beq_eq_false_iff_ne.2 fun heq => hne (heq ▸ rfl)
  rw [isIdentifierChar, isAlphanumeric, isLetter, isNumber, hletter, hnumber, hunderscore]
  rfl

/-- A word is not empty and has no blanks. -/
structure IsWord (word : List Char) : Prop where
  nonempty : word ≠ []
  solid : ∀ c ∈ word, isBlank c = false

theorem words_append_blank (hc : isBlank c = true) :
    words (front ++ c :: back) = words front ++ words back := by
  rw [words, split_append_separator hc, List.filter_append, words, words]

theorem words_of_solid (h : ∀ c ∈ text, isBlank c = false) :
    words text = if text = [] then [] else [text] := by
  rw [words, split_of_no_separator h]
  by_cases hnil : text = [] <;> simp [hnil]

/-- A text is all of one piece, or has a first piece with a blank behind it. -/
theorem piece_induction {motive : List Char → Prop}
    (piece : ∀ text, (∀ c ∈ text, isBlank c = false) → motive text)
    (blank : ∀ front c back, (∀ c ∈ front, isBlank c = false) → isBlank c = true →
      motive back → motive (front ++ c :: back)) (text : List Char) : motive text := by
  induction hlength : text.length using Nat.strongRecOn generalizing text with
  | ind length ih =>
    have hpiece : ∀ c ∈ text.takeWhile (!isBlank ·), isBlank c = false := by
      intro c hc
      simpa using List.all_eq_true.1 List.all_takeWhile c hc
    have htext := List.takeWhile_append_dropWhile (p := (!isBlank ·)) (l := text)
    cases hrest : text.dropWhile (!isBlank ·) with
    | nil =>
      rw [hrest, List.append_nil] at htext
      exact piece text (htext ▸ hpiece)
    | cons c back =>
      have hc : isBlank c = true := by
        have hhead := List.head?_dropWhile_not (!isBlank ·) text
        rw [hrest] at hhead
        simpa using hhead
      rw [hrest] at htext
      rw [← htext] at hlength ⊢
      rw [List.length_append, List.length_cons] at hlength
      exact blank _ c back hpiece hc (ih back.length (by omega) back rfl)

/-! ## Places of words -/

/-- The word stands in the text behind `before`, between blanks or the ends of the text. -/
structure WordAt (text before word : List Char) : Prop where
  isWord : IsWord word
  front : ∀ c ∈ before.getLast?, isBlank c = true
  split : ∃ after, text = before ++ word ++ after ∧ ∀ c ∈ after.head?, isBlank c = true

/-- The words before a word are those of the text before it. -/
theorem WordAt.words_eq (h : WordAt text before word) :
    ∃ after, words text = words before ++ word :: words after := by
  obtain ⟨after, rfl, hback⟩ := h.split
  have hword : words word = [word] := by
    rw [words_of_solid h.isWord.solid, if_neg h.isWord.nonempty]
  -- What is behind the word begins with a blank, and what is before it ends with one.
  have hbehind : words (word ++ after) = word :: words after := by
    cases after with
    | nil => rw [List.append_nil, hword, words, splitWhere]; rfl
    | cons c back =>
      have hc := hback c rfl
      rw [words_append_blank hc, hword, ← List.nil_append (c :: back), words_append_blank hc]
      rfl
  refine ⟨after, ?_⟩
  rw [List.append_assoc]
  obtain rfl | ⟨start, c, rfl⟩ := before.eq_nil_or_concat
  · rw [List.nil_append, hbehind]
    rfl
  · have hc := h.front c (by simp)
    rw [List.concat_eq_append, List.append_assoc, List.singleton_append, words_append_blank hc,
      words_append_blank hc, hbehind]
    simp [words, splitWhere]

/-- Every word of a text stands behind the words before it. -/
theorem exists_word_at {earlier later : List (List Char)}
    (h : words text = earlier ++ word :: later) :
    ∃ before, WordAt text before word ∧ words before = earlier := by
  have hstart {text : List Char} (hsolid : ∀ c ∈ text, isBlank c = false) (hne : text ≠ [])
      {rest : List Char} (hrest : ∀ c ∈ rest.head?, isBlank c = true) :
      WordAt (text ++ rest) [] text :=
    ⟨⟨hne, hsolid⟩, nofun, rest, rfl, hrest⟩
  induction text using piece_induction generalizing earlier with
  | piece text hsolid =>
    rw [words_of_solid hsolid] at h
    split at h
    · simp at h
    · rename_i hne
      obtain ⟨rfl, hword⟩ := List.append_eq_singleton_iff.1 h.symm |>.resolve_right (by simp)
      obtain ⟨rfl, -⟩ := List.cons.inj hword
      refine ⟨[], ?_, rfl⟩
      have hwhole := @hstart _ hsolid hne [] nofun
      rwa [List.append_nil] at hwhole
  | blank front c back hsolid hc ih =>
    rw [words_append_blank hc] at h
    have hbehind {earlier : List (List Char)} (h : words back = earlier ++ word :: later) :
        ∃ before, WordAt (front ++ c :: back) before word ∧
          words before = words front ++ earlier := by
      obtain ⟨before, ⟨hword, hfront, after, rfl, hback⟩, hbefore⟩ := ih h
      refine ⟨front ++ c :: before, ⟨hword, ?_, after, by simp, hback⟩, ?_⟩
      · intro last hlast
        rw [List.getLast?_append, List.getLast?_cons, Option.some_or] at hlast
        obtain rfl := Option.some.inj hlast
        cases hend : before.getLast? with
        | none => exact hc
        | some last => exact hfront last hend
      · rw [words_append_blank hc, hbefore]
    by_cases hne : front = []
    · subst hne
      exact hbehind h
    · rw [words_of_solid hsolid, if_neg hne] at h hbehind
      cases earlier with
      | nil =>
        obtain ⟨rfl, -⟩ := List.cons.inj h
        exact ⟨[], hstart hsolid hne fun first hfirst => Option.some.inj hfirst ▸ hc, rfl⟩
      | cons first earlier =>
        obtain ⟨rfl, hrest⟩ := List.cons.inj h
        exact hbehind hrest

/-! ## Comments -/

/-- The text before a mark is the beginning of the text, and what follows begins with the mark. -/
theorem before_first_append (mark text : List Char) :
    ∃ rest, text = beforeFirst mark text ++ rest ∧ (rest = [] ∨ mark <+: rest) := by
  induction text with
  | nil => exact ⟨[], rfl, .inl rfl⟩
  | cons c text ih =>
    rw [beforeFirst]
    split
    · rename_i hmark
      exact ⟨c :: text, rfl, .inr (List.isPrefixOf_iff_prefix.1 hmark)⟩
    · obtain ⟨rest, htext, hrest⟩ := ih
      exact ⟨rest, congrArg (c :: ·) htext, hrest⟩

end MachineCompiler.Text
