import MachineCompiler.ModuleName
import Mathlib.Data.List.Basic

/-!
# Module names are legal and free

What a legal module name is, independently of how one is made, and which name a file gets: what is
kept of the file name, with the fewest underscores behind it that no reserved name has. A file name
is its own module name exactly if it is legal and free already.
-/

namespace MachineCompiler.ModuleName

open Text

/-- The first character is a letter. -/
def BeginsWithLetter (text : List Char) : Prop :=
  ∃ first, text.head? = some first ∧ isLetter first = true

/-- A legal module name: a letter first, and then letters, numbers and underscores. -/
structure IsLegal (name : String) : Prop where
  begins : BeginsWithLetter name.toList
  plain : ∀ c ∈ name.toList, isIdentifierChar c = true

/-- What is kept of a file name. -/
def keptOf (fileName : String) : List Char :=
  fileName.toList.filterMap keep?

/-- The name with underscores put at its end. -/
def underscored (name : String) (count : Nat) : String :=
  name ++ String.ofList (List.replicate count '_')

variable {reserved : List String} {name fileName : String} {count : Nat} {c : Char}

/-! ## Underscores at the end -/

@[simp] theorem underscored_zero : underscored name 0 = name :=
  String.append_empty

@[simp] theorem to_list_underscored :
    (underscored name count).toList = name.toList ++ List.replicate count '_' := by
  rw [underscored, String.toList_append, String.toList_ofList]

theorem underscored_push : underscored (name.push '_') count = underscored name (count + 1) := by
  rw [← String.toList_inj, to_list_underscored, to_list_underscored, String.toList_push,
    List.append_assoc, List.singleton_append, List.replicate_succ]

/-- Another underscore makes another name. -/
theorem underscored_succ_ne : underscored name (count + 1) ≠ name := by
  intro heq
  have hlength := congrArg (fun text => text.toList.length) heq
  simp only [to_list_underscored, List.length_append, List.length_replicate] at hlength
  omega

/-- The search for a free name ends: after no more underscores than there are reserved names it has
a name that is not reserved, and all names that it tried before are. -/
theorem avoid_least (reserved : List String) (name : String) :
    ∃ count ≤ reserved.length, avoid reserved name = underscored name count ∧
      underscored name count ∉ reserved ∧ ∀ fewer < count, underscored name fewer ∈ reserved := by
  induction reserved, name using avoid.induct with
  | case1 reserved name hreserved ih =>
    obtain ⟨count, hbound, heq, hfree, hfewer⟩ := ih
    rw [underscored_push] at heq hfree
    have hpositive := List.length_pos_of_mem hreserved
    rw [List.length_erase_of_mem hreserved] at hbound
    refine ⟨count + 1, by omega, by rw [avoid, dif_pos hreserved, heq], ?_, ?_⟩
    · -- The name that was struck out of the list does not come back, since names get longer.
      intro hmem
      exact hfree ((List.mem_erase_of_ne underscored_succ_ne).2 hmem)
    · intro fewer hlt
      cases fewer with
      | zero => rwa [underscored_zero]
      | succ fewer =>
        rw [← underscored_push]
        exact List.mem_of_mem_erase (hfewer fewer (by omega))
  | case2 reserved name hfree =>
    refine ⟨0, Nat.zero_le _, ?_, ?_, ?_⟩
    · rw [avoid, dif_neg hfree, underscored_zero]
    · rwa [underscored_zero]
    · intro fewer hlt
      omega

/-- A name that is not reserved stays as it is. -/
theorem avoid_of_not_mem (h : name ∉ reserved) : avoid reserved name = name := by
  rw [avoid, dif_neg h]

/-! ## What is kept of a file name -/

theorem is_identifier_underscore : isIdentifierChar '_' = true := by
  simp [isIdentifierChar]

/-- What is kept may stand in an identifier. -/
theorem is_identifier_of_keep {kept : Char} (h : keep? c = some kept) :
    isIdentifierChar kept = true := by
  unfold keep? at h
  by_cases hdot : c = '.'
  · rw [if_pos hdot, Option.some.injEq] at h
    rw [← h, is_identifier_underscore]
  · rw [if_neg hdot] at h
    by_cases hplain : isIdentifierChar c = true
    · rw [if_pos hplain, Option.some.injEq] at h
      rwa [← h]
    · rw [if_neg hplain] at h
      contradiction

/-- What may stand in an identifier is kept as it is. -/
theorem keep_of_identifier (h : isIdentifierChar c = true) : keep? c = some c := by
  have hdot : c ≠ '.' := by
    rintro rfl
    exact absurd h (by decide +kernel)
  rw [keep?, if_neg hdot, if_pos h]

/-- Where the kept characters begin with a letter they are the name, and else `file_` comes before
them. -/
theorem legal_cases (fileName : String) :
    (legal fileName).toList = keptOf fileName ∧ BeginsWithLetter (keptOf fileName) ∨
      (legal fileName).toList = "file_".toList ++ keptOf fileName ∧
        ¬BeginsWithLetter (keptOf fileName) := by
  have hbegins : ((keptOf fileName).head?.map isLetter).getD false = true ↔
      BeginsWithLetter (keptOf fileName) := by
    unfold BeginsWithLetter
    cases (keptOf fileName).head? <;> simp
  by_cases h : ((keptOf fileName).head?.map isLetter).getD false = true
  · refine .inl ⟨?_, hbegins.1 h⟩
    rw [legal, ← keptOf, if_pos h, String.toList_ofList]
  · refine .inr ⟨?_, fun hfirst => h (hbegins.2 hfirst)⟩
    rw [legal, ← keptOf, if_neg h, String.toList_append]
    exact congrArg ("file_".toList ++ ·) String.toList_ofList

theorem is_legal_legal (fileName : String) : IsLegal (legal fileName) := by
  have hkept : ∀ c ∈ keptOf fileName, isIdentifierChar c = true := by
    intro c hc
    obtain ⟨_, -, hkeep⟩ := List.mem_filterMap.1 hc
    exact is_identifier_of_keep hkeep
  obtain ⟨heq, hbegins⟩ | ⟨heq, -⟩ := legal_cases fileName
  · exact ⟨by rwa [heq], by rwa [heq]⟩
  · have hfront : "file_".toList.all isIdentifierChar = true := by decide +kernel
    refine ⟨⟨'f', by rw [heq]; rfl, by decide +kernel⟩, ?_⟩
    rw [heq]
    exact List.forall_mem_append.2 ⟨List.all_eq_true.1 hfront, hkept⟩

/-- A name that is legal is kept whole. -/
theorem legal_of_is_legal (h : IsLegal fileName) : legal fileName = fileName := by
  have hkept : keptOf fileName = fileName.toList :=
    (List.filterMap_congr fun c hc => keep_of_identifier (h.plain c hc)).trans List.filterMap_some
  rw [← String.toList_inj]
  obtain ⟨heq, -⟩ | ⟨-, hbegins⟩ := legal_cases fileName
  · rw [heq, hkept]
  · rw [hkept] at hbegins
    exact absurd h.begins hbegins

/-- Underscores at its end keep a name legal. -/
theorem IsLegal.underscored (h : IsLegal name) (count : Nat) :
    IsLegal (underscored name count) := by
  obtain ⟨first, hfirst, hletter⟩ := h.begins
  refine ⟨⟨first, ?_, hletter⟩, ?_⟩
  · rw [to_list_underscored, List.head?_append, hfirst, Option.some_or]
  · intro c hc
    rw [to_list_underscored] at hc
    obtain hname | hline := List.mem_append.1 hc
    · exact h.plain c hname
    · rw [List.eq_of_mem_replicate hline, is_identifier_underscore]

/-! ## Module names -/

theorem is_legal_of_file_name (reserved : List String) (fileName : String) :
    IsLegal (ofFileName reserved fileName) := by
  obtain ⟨count, -, heq, -⟩ := avoid_least reserved (legal fileName)
  rw [ofFileName, heq]
  exact (is_legal_legal fileName).underscored count

theorem of_file_name_not_mem (reserved : List String) (fileName : String) :
    ofFileName reserved fileName ∉ reserved := by
  obtain ⟨count, -, heq, hfree, -⟩ := avoid_least reserved (legal fileName)
  rwa [ofFileName, heq]

/-- A file name is its own module name exactly if it is legal and free. -/
theorem of_file_name_eq_self_iff :
    ofFileName reserved fileName = fileName ↔ IsLegal fileName ∧ fileName ∉ reserved := by
  constructor
  · intro heq
    rw [← heq]
    exact ⟨is_legal_of_file_name reserved fileName, of_file_name_not_mem reserved fileName⟩
  · rintro ⟨hlegal, hfree⟩
    rw [ofFileName, legal_of_is_legal hlegal, avoid_of_not_mem hfree]

/-- The module name of a file is legal and not reserved. It is made of the characters that are kept
of the file name, with `file_` before them where they do not begin with a letter, and of the fewest
underscores at the end that make it none of the reserved names; there are no more of these than
reserved names. A file name that is a legal and free module name is its own module name, and no
other is; so a module name is its own. -/
theorem module_names_are_legal_and_free (reserved : List String) (fileName : String) :
    IsLegal (ofFileName reserved fileName) ∧
      ofFileName reserved fileName ∉ reserved ∧
      (∃ front : List Char, ∃ count ≤ reserved.length,
        (front = [] ∧ BeginsWithLetter (keptOf fileName) ∨
          front = "file_".toList ∧ ¬BeginsWithLetter (keptOf fileName)) ∧
        (ofFileName reserved fileName).toList =
          front ++ keptOf fileName ++ List.replicate count '_' ∧
        ∀ fewer < count,
          String.ofList (front ++ keptOf fileName ++ List.replicate fewer '_') ∈ reserved) ∧
      (ofFileName reserved fileName = fileName ↔ IsLegal fileName ∧ fileName ∉ reserved) ∧
      ofFileName reserved (ofFileName reserved fileName) = ofFileName reserved fileName := by
  have hlegal := is_legal_of_file_name reserved fileName
  have hfree := of_file_name_not_mem reserved fileName
  refine ⟨hlegal, hfree, ?_, of_file_name_eq_self_iff, of_file_name_eq_self_iff.2 ⟨hlegal, hfree⟩⟩
  obtain ⟨count, hbound, heq, -, hfewer⟩ := avoid_least reserved (legal fileName)
  have hmade {front : List Char} (hfront : (legal fileName).toList = front ++ keptOf fileName) :
      (ofFileName reserved fileName).toList =
          front ++ keptOf fileName ++ List.replicate count '_' ∧
        ∀ fewer < count,
          String.ofList (front ++ keptOf fileName ++ List.replicate fewer '_') ∈ reserved := by
    refine ⟨by rw [ofFileName, heq, to_list_underscored, hfront], fun fewer hlt => ?_⟩
    rw [← hfront, ← to_list_underscored, String.ofList_toList]
    exact hfewer fewer hlt
  obtain ⟨hkept, hbegins⟩ | ⟨hkept, hbegins⟩ := legal_cases fileName
  · exact ⟨[], count, hbound, .inl ⟨rfl, hbegins⟩, hmade hkept⟩
  · exact ⟨"file_".toList, count, hbound, .inr ⟨rfl, hbegins⟩, hmade hkept⟩

/-- Of two reserved names that differ in an underscore both are avoided. -/
example : ofFileName ["C", "C_"] "C" = "C__" := by decide +kernel

end MachineCompiler.ModuleName
