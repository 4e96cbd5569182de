import MachineCompiler.Text.Lowercase
import MachineCompiler.Text.Words

/-!
# Splitting and lowering texts

How the parts between separators go along with putting lists together and with replacing their
elements, and what the end of a lowered text is.
-/

namespace MachineCompiler.Text

variable {α β : Type} {isSeparator : α → Bool} {separator : α} {xs ys : List α}

/-! ## Parts between separators -/

/-- There is always a first part. -/
theorem exists_split (isSeparator : α → Bool) (xs : List α) :
    ∃ part parts, splitWhere isSeparator xs = part :: parts := by
  cases xs with
  | nil => exact ⟨[], [], rfl⟩
  | cons x xs =>
    unfold splitWhere
    split
    · exact ⟨_, _, rfl⟩
    · split <;> exact ⟨_, _, rfl⟩

/-- An element that is no separator belongs to the first part. -/
theorem split_cons_of_not {x : α} {part : List α} {parts : List (List α)}
    (hx : isSeparator x = false) (h : splitWhere isSeparator xs = part :: parts) :
    splitWhere isSeparator (x :: xs) = (x :: part) :: parts := by
  simp only [splitWhere, hx, h, Bool.false_eq_true, if_false]

/-- A separator separates the parts before it from those after it. -/
theorem split_append_separator (hseparator : isSeparator separator = true) :
    splitWhere isSeparator (xs ++ separator :: ys) =
      splitWhere isSeparator xs ++ splitWhere isSeparator ys := by
  induction xs with
  | nil => simp [splitWhere, hseparator]
  | cons x xs ih =>
    obtain ⟨part, parts, hparts⟩ := exists_split isSeparator xs
    rw [List.cons_append]
    cases hx : isSeparator x with
    | true => simp [splitWhere, hx, ih]
    | false =>
      rw [split_cons_of_not hx hparts, split_cons_of_not hx (ih.trans (by rw [hparts]; rfl))]
      rfl

/-- Without separators there is one part. -/
theorem split_of_no_separator (h : ∀ x ∈ xs, isSeparator x = false) :
    splitWhere isSeparator xs = [xs] := by
  induction xs with
  | nil => rfl
  | cons x xs ih =>
    obtain ⟨hx, hxs⟩ := List.forall_mem_cons.1 h
    exact split_cons_of_not hx (ih hxs)

/-- What is put behind a list and has no separators belongs to the last part. -/
theorem split_append_of_no_separator (h : ∀ y ∈ ys, isSeparator y = false) :
    ∃ parts part, splitWhere isSeparator (xs ++ ys) = parts ++ [part ++ ys] ∧
      ∀ x ∈ part, isSeparator x = false := by
  induction xs with
  | nil => exact ⟨[], [], split_of_no_separator h, List.forall_mem_nil _⟩
  | cons x xs ih =>
    obtain ⟨parts, part, hsplit, hpart⟩ := ih
    cases hx : isSeparator x with
    | true =>
      exact ⟨[] :: parts, part, by simp [splitWhere, hx, hsplit], hpart⟩
    | false =>
      -- The first element joins the first part, which is the last one when there is no other.
      cases parts with
      | nil =>
        exact ⟨[], x :: part, split_cons_of_not hx hsplit, List.forall_mem_cons.2 ⟨hx, hpart⟩⟩
      | cons first rest =>
        exact ⟨(x :: first) :: rest, part, split_cons_of_not hx hsplit, hpart⟩

/-- Replacing elements and splitting can be done in either order. -/
theorem split_map (f : β → α) (xs : List β) :
    splitWhere isSeparator (xs.map f) =
      (splitWhere (fun x => isSeparator (f x)) xs).map (List.map f) := by
  induction xs with
  | nil => rfl
  | cons x xs ih =>
    obtain ⟨part, parts, hparts⟩ := exists_split (fun x => isSeparator (f x)) xs
    rw [List.map_cons]
    cases hx : isSeparator (f x) with
    | true => simp [splitWhere, hx, ih]
    | false =>
      have hcons : splitWhere (fun x => isSeparator (f x)) (x :: xs) = (x :: part) :: parts :=
        split_cons_of_not hx hparts
      rw [hcons]
      exact split_cons_of_not hx (ih.trans (by rw [hparts]; rfl))

/-- Parts without separators come back when a separator was put between them. -/
theorem split_intercalate {parts : List (List α)} (hseparator : isSeparator separator = true)
    (hparts : parts ≠ []) (h : ∀ part ∈ parts, ∀ x ∈ part, isSeparator x = false) :
    splitWhere isSeparator (List.intercalate [separator] parts) = parts := by
  induction parts with
  | nil => contradiction
  | cons part rest ih =>
    obtain ⟨hpart, hrest⟩ := List.forall_mem_cons.1 h
    have hsingle := split_of_no_separator hpart
    cases rest with
    | nil => simpa using hsingle
    | cons next rest =>
      rw [List.intercalate_cons_cons, List.append_assoc, List.singleton_append,
        split_append_separator hseparator, hsingle, ih (List.cons_ne_nil _ _) hrest,
        List.singleton_append]

/-- Parts that are not empty either come back even if there are none. -/
theorem filter_split_intercalate {parts : List (List α)} (hseparator : isSeparator separator = true)
    (h : ∀ part ∈ parts, part ≠ [] ∧ ∀ x ∈ part, isSeparator x = false) :
    (splitWhere isSeparator (List.intercalate [separator] parts)).filter (!·.isEmpty) = parts := by
  cases parts with
  | nil => rfl
  | cons part rest =>
    rw [split_intercalate hseparator (List.cons_ne_nil _ _) fun part hpart => (h part hpart).2]
    refine List.filter_eq_self.2 fun part hpart => ?_
    simpa using (h part hpart).1

/-! ## The end of a lowered text -/

theorem lower_after_of_no_sigma {before text : List Char} (h : 'Σ' ∉ text) :
    lowerAfter before text = text.flatMap lowerChar := by
  induction text generalizing before with
  | nil => rfl
  | cons c rest ih =>
    rw [List.mem_cons, not_or] at h
    obtain ⟨hc, hrest⟩ := h
    rw [lowerAfter, if_neg (Ne.symm hc), ih hrest, List.flatMap_cons]

/-- An end without sigma is lowered by itself. -/
theorem suffix_lower_after {before text suffix : List Char} (h : 'Σ' ∉ suffix) :
    suffix.flatMap lowerChar <:+ lowerAfter before (text ++ suffix) := by
  induction text generalizing before with
  | nil => exact ⟨[], (lower_after_of_no_sigma h).symm⟩
  | cons c rest ih => exact ih.trans (List.suffix_append _ _)

/-! ## Characters that lowering leaves alone -/

/-- The character is the lowercase form of itself and of no other character. -/
structure LoweredAlone (plain : Char) : Prop where
  self : lowerChar plain = [plain]
  only : ∀ c, plain ∈ lowerChar c → c = plain
  sigma : plain ∉ ['Σ', 'ς', 'σ']

/-- No run sends another code point to one that lies below all targets. -/
theorem eq_of_lower_by {runs : List Unicode.LowercaseRun} {code target : Nat}
    (htargets : ∀ run ∈ runs, target < run.target) (h : Unicode.lowerBy runs code = target) :
    code = target := by
  induction runs with
  | nil => exact h
  | cons run rest ih =>
    obtain ⟨hrun, hrest⟩ := List.forall_mem_cons.1 htargets
    unfold Unicode.lowerBy at h
    split at h
    · exact h
    · split at h
      · omega
      · exact ih hrest h

/-- A code point is that of its character, if it has one. -/
theorem to_nat_of_nat (code : Nat) : (Char.ofNat code).toNat = code ∨ (Char.ofNat code).toNat = 0 := by
  unfold Char.ofNat
  by_cases hvalid : code.isValidChar
  · rw [dif_pos hvalid]
    exact .inl rfl
  · rw [dif_neg hvalid]
    exact .inr rfl

/-- A character below all lowercase letters is lowered alone. -/
theorem lowered_alone_of_below {plain : Char} (hpositive : 0 < plain.toNat)
    (hbelow : plain.toNat < 0x61)
    (hself : Unicode.lowerBy Unicode.lowercaseRuns plain.toNat = plain.toNat) :
    LoweredAlone plain := by
  have htargets : ∀ run ∈ Unicode.lowercaseRuns, 0x61 ≤ run.target := by decide +kernel
  have hne {c : Char} (hc : 0x61 ≤ c.toNat) : plain ≠ c :=
    fun heq => Nat.not_lt.2 hc (heq ▸ hbelow)
  have hodd : plain ≠ '\u0130' := hne (by decide)
  refine ⟨?_, fun c hmem => ?_, ?_⟩
  · rw [lowerChar, if_neg hodd, hself, Char.ofNat_toNat]
  · unfold lowerChar at hmem
    split at hmem
    · simp [hne (show 0x61 ≤ 'i'.toNat by decide), hne (show 0x61 ≤ '\u0307'.toNat by decide)] at hmem
    · have hcode := congrArg Char.toNat (List.mem_singleton.1 hmem)
      obtain hvalid | hnone := to_nat_of_nat (Unicode.lowerBy Unicode.lowercaseRuns c.toNat)
      · exact Char.toNat_inj.1 (eq_of_lower_by
          (fun run hrun => Nat.lt_of_lt_of_le hbelow (htargets run hrun))
          (hcode.trans hvalid).symm)
      · exact absurd (hcode.trans hnone) (Nat.ne_of_gt hpositive)
  · simp [hne (show 0x61 ≤ 'Σ'.toNat by decide), hne (show 0x61 ≤ 'ς'.toNat by decide),
      hne (show 0x61 ≤ 'σ'.toNat by decide)]

theorem LoweredAlone.count_lower_char {plain : Char} (h : LoweredAlone plain) (c : Char) :
    (lowerChar c).count plain = [c].count plain := by
  by_cases hc : c = plain
  · rw [hc, h.self]
  · rw [List.count_eq_zero.2 fun hmem => hc (h.only c hmem),
      List.count_eq_zero.2 fun hmem => hc (List.mem_singleton.1 hmem).symm]

/-- Lowering a text, such a character is found as often as before. -/
theorem LoweredAlone.count_lower_after {plain : Char} (h : LoweredAlone plain)
    (before text : List Char) : (lowerAfter before text).count plain = text.count plain := by
  induction text generalizing before with
  | nil => rfl
  | cons c rest ih =>
    have hfirst : (if c = 'Σ' then if meetsCased before && !meetsCased rest then ['ς'] else ['σ']
        else lowerChar c).count plain = [c].count plain := by
      have hsigma := h.sigma
      simp only [List.mem_cons, List.not_mem_nil, or_false, not_or] at hsigma
      obtain ⟨hcapital, hfinal, hsmall⟩ := hsigma
      split
      · rename_i hc
        subst hc
        rw [List.count_eq_zero.2 (show plain ∉ ['Σ'] by simpa using hcapital)]
        split <;> exact List.count_eq_zero.2 (by simpa)
      · exact h.count_lower_char c
    rw [lowerAfter, List.count_append, hfirst, ih, ← List.count_append, List.singleton_append]

theorem LoweredAlone.mem_lower_after {plain : Char} (h : LoweredAlone plain)
    {before text : List Char} : plain ∈ lowerAfter before text ↔ plain ∈ text := by
  rw [← List.count_pos_iff, h.count_lower_after, List.count_pos_iff]

/-! ## Texts that are lowered apart -/

/-- A character never lowers to nothing. -/
theorem lower_after_ne_nil {before text : List Char} (h : text ≠ []) :
    lowerAfter before text ≠ [] := by
  have hlower (c : Char) : lowerChar c ≠ [] := by
    unfold lowerChar
    split <;> exact List.cons_ne_nil _ _
  cases text with
  | nil => exact absurd rfl h
  | cons c rest =>
    rw [lowerAfter]
    refine List.append_ne_nil_of_left_ne_nil ?_ _
    split
    · split <;> exact List.cons_ne_nil _ _
    · exact hlower c

/-- The character is lowered alone, and no word goes on behind it. -/
structure BreaksWords (c : Char) : Prop where
  alone : LoweredAlone c
  cased : isCased c = false
  ignorable : isCaseIgnorable c = false

variable {c : Char}

/-- What stands behind the break is not met. -/
theorem BreaksWords.meets_cased_append (h : BreaksWords c) (front back : List Char) :
    meetsCased (front ++ c :: back) = meetsCased front := by
  unfold meetsCased
  induction front with
  | nil => simp [h.ignorable, h.cased]
  | cons first rest ih =>
    cases hfirst : isCaseIgnorable first with
    | true => simpa [hfirst] using ih
    | false => simp [hfirst]

/-- What stands before the break makes no difference to what is lowered behind it. -/
theorem BreaksWords.lower_after_break (h : BreaksWords c) (before beyond text : List Char) :
    lowerAfter (before ++ c :: beyond) text = lowerAfter before text := by
  induction text generalizing before with
  | nil => rfl
  | cons first rest ih =>
    rw [lowerAfter, lowerAfter, h.meets_cased_append, ← List.cons_append, ih]

/-- The texts before and behind a break are lowered apart. -/
theorem BreaksWords.lower_after_append (h : BreaksWords c) (before front back : List Char) :
    lowerAfter before (front ++ c :: back) = lowerAfter before front ++ c :: lowerAfter [] back := by
  have hbehind (beyond : List Char) : lowerAfter (c :: beyond) back = lowerAfter [] back :=
    h.lower_after_break [] beyond back
  induction front generalizing before with
  | nil =>
    have hsigma : c ≠ 'Σ' := fun heq => h.alone.sigma (by simp [heq])
    simp only [List.nil_append, lowerAfter, if_neg hsigma, h.alone.self, hbehind]
    rfl
  | cons first rest ih =>
    rw [List.cons_append, lowerAfter, lowerAfter, h.meets_cased_append, ih, List.append_assoc]

/-- Texts with breaks between them are lowered one by one. -/
theorem BreaksWords.lower_after_intercalate (h : BreaksWords c) (parts : List (List Char)) :
    lowerAfter [] (List.intercalate [c] parts) =
      List.intercalate [c] (parts.map (lowerAfter [])) := by
  induction parts with
  | nil => rfl
  | cons part rest ih =>
    cases rest with
    | nil => simp
    | cons next rest =>
      rw [List.intercalate_cons_cons, List.append_assoc, List.singleton_append,
        h.lower_after_append, ih]
      simp only [List.map_cons, List.intercalate_cons_cons, List.append_assoc,
        List.singleton_append]

end MachineCompiler.Text
