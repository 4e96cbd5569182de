import MachineCompiler.Proofs.ProgramName.NormalForm
import MachineCompiler.Source.Includes
import Mathlib.Data.List.Forall2

/-!
# Names up to letter case

Two names are the same program exactly when their entries agree one by one up to letter case: the
separator belongs to no word, so every entry is lowered by itself, whatever stands around it. So
the same program lies in the same directory, and what it includes is the same however it is spelled
itself.
-/

namespace MachineCompiler

open Text

/-- No separator is shown for an entry. -/
theorem Path.Segment.separator_not_shown (segment : Path.Segment) :
    '/' ∉ segment.shown.toList := by
  rw [shown, Utf8.shown, String.toList_ofList, List.mem_map]
  rintro ⟨piece, hpiece, hseparator⟩
  cases piece with
  | char value =>
    obtain rfl : value = '/' := hseparator
    exact segment.proper.2.2.2 hpiece
  | illFormed bytes => exact absurd (show '\uFFFD' = '/' from hseparator) (by decide)

namespace ProgramName

/-- The entries on the way to the program, in lower case. -/
def folded (name : ProgramName) : List String :=
  name.segments.map fun segment => lowercase segment.shown

theorem separator_breaks_words : BreaksWords '/' where
  alone := lowered_alone_of_below (by decide) (by decide) (by decide +kernel)
  cased := by decide +kernel
  ignorable := by decide +kernel

/-- The key spells the entries in lower case. -/
theorem key_eq (name : ProgramName) :
    name.key.toList = '/' :: List.intercalate ['/'] (name.folded.map String.toList) := by
  have hparts : name.folded.map String.toList =
      ((name.segments.map Path.Segment.pieces).map (List.map Piece.shown)).map (lowerAfter []) := by
    simp [folded, lowercase, Path.Segment.shown, Utf8.shown, Function.comp_def]
  have hshown : name.shown.toList = '/' ::
      List.intercalate ['/']
        ((name.segments.map Path.Segment.pieces).map (List.map Piece.shown)) := by
    rw [shown, path, Path.shown, Utf8.shown, String.toList_ofList, Path.through, List.map_cons,
      Path.map_intercalate]
    rfl
  rw [key, lowercase, String.toList_ofList, hshown, hparts,
    ← separator_breaks_words.lower_after_intercalate]
  exact separator_breaks_words.lower_after_append [] [] _

/-- An entry in lower case is not empty and has no separator. -/
theorem folded_plain (name : ProgramName) :
    ∀ part ∈ name.folded.map String.toList, part ≠ [] ∧ ∀ c ∈ part, (c == '/') = false := by
  intro part hpart
  obtain ⟨text, htext, rfl⟩ := List.mem_map.1 hpart
  obtain ⟨segment, -, rfl⟩ := List.mem_map.1 htext
  rw [lowercase, String.toList_ofList]
  refine ⟨lower_after_ne_nil fun hnil => segment.proper.1 ?_, fun c hc => beq_false_of_ne ?_⟩
  · rw [Path.Segment.shown, Utf8.shown, String.toList_ofList] at hnil
    exact List.map_eq_nil_iff.1 hnil
  · rintro rfl
    exact segment.separator_not_shown (separator_breaks_words.alone.mem_lower_after.1 hc)

variable {name other : ProgramName}

/-- Names are the same program exactly when they agree entry by entry up to letter case. -/
theorem beq_iff_folded : (name == other) = true ↔ name.folded = other.folded := by
  rw [beq_iff_key]
  constructor
  · intro hkey
    have htexts : List.intercalate ['/'] (name.folded.map String.toList) =
        List.intercalate ['/'] (other.folded.map String.toList) := by
      have hkeys := congrArg String.toList hkey
      rw [key_eq, key_eq] at hkeys
      exact List.tail_eq_of_cons_eq hkeys
    have hsplit (name : ProgramName) :
        (splitWhere (· == '/') (List.intercalate ['/'] (name.folded.map String.toList))).filter
          (!·.isEmpty) = name.folded.map String.toList :=
      filter_split_intercalate (beq_self_eq_true '/') name.folded_plain
    have hparts : name.folded.map String.toList = other.folded.map String.toList := by
      rw [← hsplit name, ← hsplit other, htexts]
    exact (List.map_inj_right fun _ _ => String.toList_inj.1).1 hparts
  · intro hfolded
    rw [← String.toList_inj, key_eq, key_eq, hfolded]

/-- The last component is the same up to letter case. -/
theorem lowercase_file_name (h : (name == other) = true) :
    lowercase name.fileName = lowercase other.fileName := by
  have hlast := congrArg List.getLast? (beq_iff_folded.1 h)
  simp only [folded, List.getLast?_map] at hlast
  unfold fileName
  cases hname : name.segments.getLast? with
  | some segment =>
    cases hother : other.segments.getLast? with
    | some segment' => simpa only [hname, hother, Option.map_some, Option.some.injEq] using hlast
    | none => simp [hname, hother] at hlast
  | none =>
    cases hother : other.segments.getLast? with
    | some segment' => simp [hname, hother] at hlast
    | none => exact beq_iff_key.1 h

/-- Where a path leads to is the same up to letter case when it begins so. -/
theorem folded_walk {components : List Path.Component} {reached reached' : List Path.Segment}
    (h : (mk reached).folded = (mk reached').folded) :
    (mk (components.foldl walk reached)).folded = (mk (components.foldl walk reached')).folded := by
  induction components generalizing reached reached' with
  | nil => exact h
  | cons component rest ih =>
    refine ih ?_
    unfold folded at h ⊢
    cases component with
    | here => exact h
    | up => simp only [walk, List.map_dropLast, h]
    | entry segment => simp only [walk, List.map_append, h]

/-- The directory of a program is spelled by its entries but the last. -/
theorem of_path_directory (name : ProgramName) :
    ofPath name.directory = .ok ⟨name.segments.dropLast⟩ :=
  of_path_path ⟨name.segments.dropLast⟩

/-- What is resolved in the directory of the same program is the same program. -/
theorem resolve_same (h : (name == other) = true) {path : Path} (hne : path.pieces ≠ []) :
    ∃ found found', resolve name.directory path = .ok found ∧
      resolve other.directory path = .ok found' ∧ (found == found') = true := by
  cases hpath : path.isAbsolute with
  | true =>
    exact ⟨_, _, resolve_of_absolute hpath, resolve_of_absolute hpath, BEq.rfl⟩
  | false =>
    refine ⟨_, _, resolve_of_relative name.of_path_directory hpath hne,
      resolve_of_relative other.of_path_directory hpath hne, beq_iff_folded.2 (folded_walk ?_)⟩
    have hfolded := congrArg List.dropLast (beq_iff_folded.1 h)
    simpa only [folded, List.map_dropLast] using hfolded

end ProgramName

/-! ## Includes -/

namespace Source.Frontier

/-- The frontiers hold the same programs in the same order, however they are spelled. -/
structure Same (frontier other : Frontier) : Prop where
  queue : List.Forall₂ (fun file file' => (file == file') = true) frontier.queue other.queue
  seen : List.Forall₂ (fun file file' => (file == file') = true) frontier.seen other.seen

variable {frontier other : Frontier} {file file' : ProgramName}

/-- Whether a file was met before does not depend on its spelling. -/
theorem any_seen_same {seen seen' : List ProgramName}
    (hseen : List.Forall₂ (fun file file' => (file == file') = true) seen seen')
    (hfile : (file == file') = true) : seen.any (file == ·) = seen'.any (file' == ·) := by
  induction hseen with
  | nil => rw [List.any_nil, List.any_nil]
  | @cons first first' _ _ hfirst _ ih =>
    have hnow : (file == first) = (file' == first') :=
      (BEq.congr_left hfile).trans (BEq.congr_right hfirst)
    rw [List.any_cons, List.any_cons, ih, hnow]

theorem Same.meet (h : frontier.Same other) (hfile : (file == file') = true) :
    (frontier.meet file).Same (other.meet file') := by
  unfold Frontier.meet
  rw [any_seen_same h.seen hfile]
  split
  · exact h
  · exact ⟨List.rel_append h.queue (.cons hfile .nil), List.rel_append h.seen (.cons hfile .nil)⟩

/-- The includes of a file are the same files, or fail in the same way, however it is spelled. -/
theorem Same.meet_all (hfile : (file == file') = true) (includes : List String)
    (h : frontier.Same other) :
    (∃ flag, meetAll file includes frontier = .error flag ∧
      meetAll file' includes other = .error flag) ∨
    ∃ after after', meetAll file includes frontier = .ok after ∧
      meetAll file' includes other = .ok after' ∧ after.Same after' := by
  induction includes generalizing frontier other with
  | nil => exact .inr ⟨_, _, rfl, rfl, h⟩
  | cons path rest ih =>
    by_cases hempty : (Path.ofString path).pieces = []
    · refine .inl ⟨badFile path ProgramName.Error.empty.message, ?_, ?_⟩ <;>
        simp only [meetAll, ProgramName.resolve, hempty, List.isEmpty_nil, if_true]
    · obtain ⟨found, found', hfound, hfound', hsame⟩ := ProgramName.resolve_same hfile hempty
      simp only [meetAll, hfound, hfound']
      exact ih (h.meet hsame)

end Source.Frontier

namespace ProgramName

open Source

/-- However a program is spelled, what is resolved in its directory is the same program, unless the
path is empty, and what it includes changes a search in the same way: the same files are put in the
queue, or the search ends with the same flag. -/
theorem identity_decides_includes {name other : ProgramName} (h : (name == other) = true) :
    (∀ path : Path,
      (path.pieces = [] ∧ resolve name.directory path = .error .empty ∧
        resolve other.directory path = .error .empty) ∨
      ∃ found found', resolve name.directory path = .ok found ∧
        resolve other.directory path = .ok found' ∧ (found == found') = true) ∧
    ∀ (includes : List String) (frontier frontier' : Frontier), frontier.Same frontier' →
      (∃ flag, Frontier.meetAll name includes frontier = .error flag ∧
        Frontier.meetAll other includes frontier' = .error flag) ∨
      ∃ after after', Frontier.meetAll name includes frontier = .ok after ∧
        Frontier.meetAll other includes frontier' = .ok after' ∧ after.Same after' := by
  refine ⟨fun path => ?_, fun includes frontier frontier' hsame => hsame.meet_all h includes⟩
  by_cases hne : path.pieces = []
  · exact .inl ⟨hne, by simp [resolve, hne], by simp [resolve, hne]⟩
  · exact .inr (resolve_same h hne)

/-- Two spellings of one file, whose directory ends in a sigma and in bytes that are no text. A file
that is included from the directory above it has two spellings then. -/
theorem identity_decides_includes_of_sigma :
    let entry (front : String) (back : List Piece)
        (h : Path.IsProperName (front.toList.map .char ++ back)) : Path.Segment := ⟨_, h⟩
    let name : ProgramName :=
      ⟨[entry "ΟΔΟΣ" [] (by decide), entry "Α" [.illFormed [0xFF]] (by decide),
        entry "Main.p" [] (by decide)]⟩
    let other : ProgramName :=
      ⟨[entry "οδος" [] (by decide), entry "α\uFFFD" [] (by decide), entry "MAIN.P" [] (by decide)]⟩
    (name == other) = true ∧ name ≠ other ∧
      ∃ found found', resolve name.directory (.ofString "../ΣΑΣ.p") = .ok found ∧
        resolve other.directory (.ofString "../ΣΑΣ.p") = .ok found' ∧ (found == found') = true ∧
          found.shown = "/ΟΔΟΣ/ΣΑΣ.p" ∧ found'.shown = "/οδος/ΣΑΣ.p" := by
  intro entry name other
  have hsame : (name == other) = true := by decide +kernel
  refine ⟨hsame, by decide +kernel, ?_⟩
  obtain ⟨hempty, -⟩ | ⟨found, found', hfound, hfound', hfiles⟩ :=
    (identity_decides_includes hsame).1 (.ofString "../ΣΑΣ.p")
  · exact absurd hempty (by decide)
  · have hshown : (resolve name.directory (.ofString "../ΣΑΣ.p")).map shown = .ok "/ΟΔΟΣ/ΣΑΣ.p" ∧
        (resolve other.directory (.ofString "../ΣΑΣ.p")).map shown = .ok "/οδος/ΣΑΣ.p" := by
      decide +kernel
    rw [hfound, hfound'] at hshown
    exact ⟨found, found', hfound, hfound', hfiles, Except.ok.inj hshown.1, Except.ok.inj hshown.2⟩

end ProgramName

end MachineCompiler
