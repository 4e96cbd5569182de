import MachineCompiler.Proofs.ProgramName.Identity
import MachineCompiler.Proofs.Text.Splitting

/-!
# How names are spelled

The end of a path is the end of the name of its program, and lowered it is the end of the key. A
name that is shown and read again is a name of the same program, even if its path has parts that
are no text.
-/

namespace MachineCompiler

open Text

namespace Path

/-! ## The last component -/

/-- No part without separators that holds another character than dots stands for a directory. -/
theorem component_of_part {part : List Piece} (hseparator : separator ∉ part)
    {c : Char} (hmem : Piece.char c ∈ part) (hc : c ≠ '.') :
    ∃ segment : Segment,
      Component.ofPart? part = some (.entry segment) ∧ segment.pieces = part := by
  have hdot : part ≠ dot := by
    rintro rfl
    exact hc (by simpa [dot] using hmem)
  have hdots : part ≠ dotDot := by
    rintro rfl
    exact hc (by simpa [dotDot] using hmem)
  have hproper : IsProperName part := ⟨List.ne_nil_of_mem hmem, hdot, hdots, hseparator⟩
  refine ⟨⟨part, hproper⟩, ?_, rfl⟩
  rw [Component.ofPart?, if_neg hdot, if_neg hdots, dif_pos hproper]

theorem no_separator {part : List Piece} (hseparator : separator ∉ part) :
    ∀ piece ∈ part, (piece == separator) = false :=
  fun _ hpiece => beq_false_of_ne fun heq => hseparator (heq ▸ hpiece)

/-- The end of a path without separators is the end of its last component. -/
theorem components_append (front : List Piece) {part : List Piece} (hseparator : separator ∉ part)
    {c : Char} (hmem : Piece.char c ∈ part) (hc : c ≠ '.') :
    ∃ components segment, (⟨front ++ part⟩ : Path).components = components ++ [.entry segment] ∧
      part <:+ segment.pieces := by
  obtain ⟨parts, last, hsplit, hlast⟩ :=
    split_append_of_no_separator (no_separator hseparator)
  have hwhole : separator ∉ last ++ part := by
    rw [List.mem_append, not_or]
    exact ⟨fun h => absurd (hlast _ h) (by simp), hseparator⟩
  obtain ⟨segment, hsegment, hpieces⟩ :=
    component_of_part hwhole (List.mem_append_right _ hmem) hc
  refine ⟨parts.filterMap Component.ofPart?, segment, ?_, hpieces ▸ List.suffix_append _ _⟩
  rw [components, hsplit, List.filterMap_append, List.filterMap_cons, hsegment]
  rfl

/-- What stands behind the last separator is the last component. -/
theorem components_append_separator (front : List Piece) {part : List Piece}
    (hseparator : separator ∉ part) {c : Char} (hmem : Piece.char c ∈ part) (hc : c ≠ '.') :
    ∃ segment : Segment, segment.pieces = part ∧ (⟨front ++ separator :: part⟩ : Path).components =
      (⟨front⟩ : Path).components ++ [.entry segment] := by
  obtain ⟨segment, hsegment, hpieces⟩ := component_of_part hseparator hmem hc
  refine ⟨segment, hpieces, ?_⟩
  have hsplit : splitWhere (· == separator) (front ++ separator :: part) =
      splitWhere (· == separator) front ++ splitWhere (· == separator) part :=
    split_append_separator (beq_self_eq_true separator)
  rw [components, hsplit, split_of_no_separator (no_separator hseparator),
    List.filterMap_append, List.filterMap_cons, hsegment]
  rfl

end Path

namespace ProgramName

/-! ## The end of a name -/

/-- The entry that a path leads to comes last in the name. -/
theorem segments_of_components {path : Path} {name : ProgramName}
    {components : List Path.Component} {segment : Path.Segment}
    (h : path.components = components ++ [.entry segment]) (hname : ofPath path = .ok name) :
    ∃ segments, name.segments = segments ++ [segment] := by
  rw [of_path_absolute (is_absolute_of_path hname), h, List.foldl_append] at hname
  cases hname
  exact ⟨_, rfl⟩

/-- The last entry of a path stands at its end, behind a separator. -/
theorem through_append (segments : List Path.Segment) (segment : Path.Segment) :
    ∃ front, (Path.through (segments ++ [segment])).pieces =
      front ++ Path.separator :: segment.pieces := by
  induction segments with
  | nil => exact ⟨[], by simp [Path.through]⟩
  | cons first rest ih =>
    obtain ⟨front, hfront⟩ := ih
    obtain ⟨second, others, hothers⟩ :
        ∃ second others, rest ++ [segment] = second :: others := by
      cases rest <;> exact ⟨_, _, rfl⟩
    refine ⟨Path.separator :: first.pieces ++ front, ?_⟩
    rw [List.append_assoc, ← hfront, List.cons_append, hothers]
    simp [Path.through, List.intercalate]

/-- The shown form of the last entry, behind a separator, is the end of the shown name. -/
theorem shown_suffix {name : ProgramName} {segments : List Path.Segment} {segment : Path.Segment}
    (h : name.segments = segments ++ [segment]) :
    '/' :: segment.pieces.map Piece.shown <:+ name.shown.toList := by
  obtain ⟨front, hfront⟩ := through_append segments segment
  refine ⟨front.map Piece.shown, ?_⟩
  rw [shown, path, h, Path.shown, Utf8.shown, hfront]
  simp [Path.separator, Piece.shown]

/-- An end of the shown name without sigma is the end of the key when it is lowered. -/
theorem key_suffix {name : ProgramName} {suffix : List Char} (hsigma : 'Σ' ∉ suffix)
    (h : suffix <:+ name.shown.toList) : suffix.flatMap lowerChar <:+ name.key.toList := by
  obtain ⟨front, hfront⟩ := h
  rw [key, lowercase, String.toList_ofList, ← hfront]
  exact suffix_lower_after hsigma

end ProgramName

/-! ## Names that are shown and read again -/

namespace Path

theorem map_intercalate {α β : Type} (f : α → β) (between : List α) (parts : List (List α)) :
    (List.intercalate between parts).map f =
      List.intercalate (between.map f) (parts.map (List.map f)) := by
  induction parts with
  | nil => rfl
  | cons part rest ih =>
    cases rest with
    | nil => simp
    | cons next rest =>
      rw [List.intercalate_cons_cons, List.map_append, List.map_append, ih]
      simp [List.intercalate_cons_cons]

/-- The piece that is read where a piece is shown. -/
def flat (piece : Piece) : Piece := .char piece.shown

theorem of_string_shown (path : Path) : ofString path.shown = ⟨path.pieces.map flat⟩ := by
  simp [ofString, shown, Utf8.shown, flat, Function.comp_def]

@[simp] theorem shown_flat (piece : Piece) : (flat piece).shown = piece.shown := rfl

/-- Only what is shown as a character of a path is read as one. -/
theorem flat_eq_iff {piece : Piece} {c : Char} (hc : c ≠ '\uFFFD') :
    flat piece = .char c ↔ piece = .char c := by
  cases piece with
  | char value => simp [flat, Piece.shown]
  | illFormed bytes => simpa [flat, Piece.shown] using hc.symm

theorem map_flat_eq_iff {part : List Piece} {text : List Char} (h : '\uFFFD' ∉ text) :
    part.map flat = text.map .char ↔ part = text.map .char := by
  induction part generalizing text with
  | nil => cases text <;> simp
  | cons piece rest ih =>
    cases text with
    | nil => simp
    | cons c text =>
      rw [List.mem_cons, not_or] at h
      simp [flat_eq_iff (Ne.symm h.1), ih h.2]

/-- The name of an entry is one when it is read again, and nothing else becomes one. -/
theorem is_proper_name_flat {part : List Piece} :
    IsProperName (part.map flat) ↔ IsProperName part := by
  have hdot : part.map flat = dot ↔ part = dot :=
    map_flat_eq_iff (show '\uFFFD' ∉ ['.'] by decide)
  have hdots : part.map flat = dotDot ↔ part = dotDot :=
    map_flat_eq_iff (show '\uFFFD' ∉ ['.', '.'] by decide)
  have hseparator : separator ∈ part.map flat ↔ separator ∈ part := by
    simp [separator, flat_eq_iff (show '/' ≠ '\uFFFD' by decide)]
  rw [IsProperName, IsProperName, ne_eq, List.map_eq_nil_iff, ne_eq, hdot, ne_eq, hdots, hseparator]

/-- The entry as it is read where it is shown. -/
def Segment.flat (segment : Segment) : Segment :=
  ⟨segment.pieces.map Path.flat, is_proper_name_flat.2 segment.proper⟩

/-- The component as it is read where it is shown. -/
def Component.flat : Component → Component
  | .here => .here
  | .up => .up
  | .entry segment => .entry segment.flat

theorem of_part_flat (part : List Piece) :
    Component.ofPart? (part.map flat) = (Component.ofPart? part).map Component.flat := by
  have hdot : part.map flat = dot ↔ part = dot :=
    map_flat_eq_iff (show '\uFFFD' ∉ ['.'] by decide)
  have hdots : part.map flat = dotDot ↔ part = dotDot :=
    map_flat_eq_iff (show '\uFFFD' ∉ ['.', '.'] by decide)
  simp only [Component.ofPart?, hdot, hdots, is_proper_name_flat]
  split
  · rfl
  · split
    · rfl
    · split <;> rfl

theorem flat_beq_separator (piece : Piece) : (flat piece == separator) = (piece == separator) := by
  rw [Bool.eq_iff_iff, beq_iff_eq, beq_iff_eq]
  exact flat_eq_iff (by decide)

/-- A shown path has the shown components. -/
theorem components_of_string_shown (path : Path) :
    (ofString path.shown).components = path.components.map Component.flat := by
  rw [of_string_shown, components, split_map, List.filterMap_map, components, List.map_filterMap]
  simp only [flat_beq_separator]
  exact congrArg (List.filterMap · _) (funext of_part_flat)

theorem is_absolute_of_string_shown (path : Path) :
    (ofString path.shown).isAbsolute = path.isAbsolute := by
  obtain ⟨_ | ⟨piece, rest⟩⟩ := path
  · rfl
  · rw [of_string_shown]
    exact flat_beq_separator piece

end Path

namespace ProgramName

theorem walk_flat (components : List Path.Component) (reached : List Path.Segment) :
    (components.map Path.Component.flat).foldl walk (reached.map Path.Segment.flat) =
      (components.foldl walk reached).map Path.Segment.flat := by
  induction components generalizing reached with
  | nil => rfl
  | cons component rest ih =>
    rw [List.map_cons, List.foldl_cons, List.foldl_cons, ← ih]
    cases component <;> simp [Path.Component.flat, walk]

/-- Entries that are shown and read again are shown as before. -/
theorem shown_map_flat (segments : List Path.Segment) :
    (ProgramName.mk (segments.map Path.Segment.flat)).shown = (ProgramName.mk segments).shown := by
  have hpieces : ((segments.map Path.Segment.flat).map Path.Segment.pieces).map
        (List.map Piece.shown) =
      (segments.map Path.Segment.pieces).map (List.map Piece.shown) := by
    simp [Path.Segment.flat, Function.comp_def]
  rw [shown, shown, path, path, Path.shown, Path.shown, Utf8.shown, Utf8.shown, Path.through,
    Path.through, List.map_cons, List.map_cons, Path.map_intercalate, Path.map_intercalate, hpieces]

/-- The path of a program, shown and read again, is a path of the same program. -/
theorem of_path_shown {path : Path} {name : ProgramName} (h : ofPath path = .ok name) :
    ∃ name', ofPath (Path.ofString path.shown) = .ok name' ∧ (name' == name) = true := by
  have habsolute := is_absolute_of_path h
  rw [of_path_absolute habsolute] at h
  cases h
  have hshown : (Path.ofString path.shown).isAbsolute = true :=
    (Path.is_absolute_of_string_shown path).trans habsolute
  refine ⟨_, of_path_absolute hshown, beq_iff_key.2 ?_⟩
  rw [Path.components_of_string_shown, key, key, ← List.map_nil (f := Path.Segment.flat), walk_flat,
    shown_map_flat]
  rfl

end ProgramName

end MachineCompiler
