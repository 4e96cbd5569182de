import MachineCompiler.FileSystem.Layout
import MachineCompiler.Proofs.ProgramName.Spelling
import Mathlib.Data.List.Basic

/-!
# Staying inside a directory

A path that is put behind a directory leads into it, as far as its spelling goes, when it is
relative and none of its steps goes above where it begins.
-/

namespace MachineCompiler

open Text

namespace Path

/-- No step goes above the directory that lies `depth` directories above where the components
begin. -/
def staysBelow : Nat → List Component → Bool
  | _, [] => true
  | depth, .here :: rest => staysBelow depth rest
  | 0, .up :: _ => false
  | depth + 1, .up :: rest => staysBelow depth rest
  | depth, .entry _ :: rest => staysBelow (depth + 1) rest

/-- The path leads into every directory that it is put behind. -/
def isConfined (path : Path) : Bool :=
  !path.isAbsolute && staysBelow 0 path.components

/-- The components of a path behind a separator come after those before it. -/
theorem components_append_separated (front back : List Piece) :
    (⟨front ++ separator :: back⟩ : Path).components =
      (⟨front⟩ : Path).components ++ (⟨back⟩ : Path).components := by
  have hsplit : splitWhere (· == separator) (front ++ separator :: back) =
      splitWhere (· == separator) front ++ splitWhere (· == separator) back :=
    split_append_separator (beq_self_eq_true separator)
  rw [components, hsplit, List.filterMap_append]
  rfl

/-- A relative path that is put behind a directory is followed from there. -/
theorem components_join {base path : Path} (h : path.isAbsolute = false) :
    (base.join path).components = base.components ++ path.components := by
  obtain ⟨pieces⟩ := base
  unfold join
  rw [if_neg (by simp [h])]
  split
  · rename_i hends
    obtain rfl | ⟨front, last, rfl⟩ := pieces.eq_nil_or_concat'
    · rfl
    · obtain rfl : last = separator := by simpa [endsInSeparator] using hends
      have hnothing : (⟨[]⟩ : Path).components = [] := rfl
      rw [List.append_assoc, List.singleton_append, components_append_separated,
        components_append_separated, hnothing, List.append_nil]
  · exact components_append_separated _ _

/-- A path behind a directory is absolute if the directory is. -/
theorem is_absolute_join_of_relative {base path : Path} (h : path.isAbsolute = false) :
    (base.join path).isAbsolute = base.isAbsolute := by
  obtain ⟨pieces⟩ := base
  unfold join
  rw [if_neg (by simp [h])]
  cases pieces with
  | nil => exact h
  | cons first rest => split <;> rfl

/-- What is walked below a directory stays below it. -/
theorem prefix_walk {components : List Component} {directory inner : List Segment}
    (h : staysBelow inner.length components = true) :
    directory <+: components.foldl ProgramName.walk (directory ++ inner) := by
  induction components generalizing inner with
  | nil => exact List.prefix_append _ _
  | cons component rest ih =>
    cases component with
    | here => exact ih h
    | entry name =>
      rw [List.foldl_cons, ProgramName.walk, List.append_assoc]
      exact ih (by simpa [staysBelow] using h)
    | up =>
      obtain rfl | ⟨above, last, rfl⟩ := inner.eq_nil_or_concat'
      · exact absurd h Bool.false_ne_true
      · rw [List.length_append, List.length_singleton] at h
        rw [List.foldl_cons, ProgramName.walk, ← List.append_assoc, List.dropLast_concat]
        exact ih h

/-- What begins in a directory and goes nowhere above it stays below it. -/
theorem prefix_walk_of_stays_below {components : List Component} {directory : List Segment}
    (h : staysBelow 0 components = true) :
    directory <+: components.foldl ProgramName.walk directory := by
  have hprefix : directory <+: components.foldl ProgramName.walk (directory ++ []) :=
    prefix_walk h
  rwa [List.append_nil] at hprefix

/-- A name of a file without separators, which is more than dots, is a relative path with one
component. -/
theorem components_of_plain {file : String} (hseparator : '/' ∉ file.toList) {c : Char}
    (hmem : c ∈ file.toList) (hc : c ≠ '.') : (ofString file).isAbsolute = false ∧
      ∃ segment : Segment, (ofString file).components = [.entry segment] ∧
        segment.shown = file := by
  have hpart : separator ∉ file.toList.map Piece.char := by
    rw [List.mem_map]
    rintro ⟨other, hother, hsame⟩
    obtain rfl : other = '/' := Piece.char.inj hsame
    exact hseparator hother
  refine ⟨Bool.eq_false_iff.2 fun habsolute => hpart ?_, ?_⟩
  · rw [isAbsolute, beq_iff_eq, ofString] at habsolute
    exact List.mem_of_head? habsolute
  · obtain ⟨segment, hsegment, hpieces⟩ :=
      component_of_part hpart (List.mem_map_of_mem hmem) hc
    refine ⟨segment, ?_, ?_⟩
    · rw [components, ofString, split_of_no_separator (no_separator hpart), List.filterMap_cons,
        hsegment]
      rfl
    · rw [Segment.shown, hpieces, Utf8.shown, List.map_map,
        show Piece.shown ∘ Piece.char = id from rfl, List.map_id, String.ofList_toList]

/-- Such a name is confined. -/
theorem is_confined_of_plain {file : String} (hseparator : '/' ∉ file.toList) {c : Char}
    (hmem : c ∈ file.toList) (hc : c ≠ '.') : (ofString file).isConfined = true := by
  obtain ⟨hrelative, segment, hcomponents, -⟩ := components_of_plain hseparator hmem hc
  rw [isConfined, hrelative, hcomponents]
  rfl

end Path

/-- What leads into a directory spells a place inside it. -/
theorem FileSystem.place_prefix {files : FileSystem} {directory path : Path}
    (h : path.isConfined = true) :
    files.placeOf directory <+: files.placeOf (directory.join path) := by
  obtain ⟨habsolute, hbelow⟩ := (Bool.and_eq_true _ _).mp h
  have hrelative : path.isAbsolute = false := by simpa using habsolute
  unfold placeOf origin
  rw [Path.components_join hrelative, Path.is_absolute_join_of_relative hrelative,
    List.foldl_append]
  exact Path.prefix_walk_of_stays_below hbelow

end MachineCompiler
