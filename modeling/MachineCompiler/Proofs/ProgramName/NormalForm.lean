import MachineCompiler.Proofs.FileSystem.Containment
import MachineCompiler.Proofs.ProgramName.Places

/-!
# The normal form of a path

All spellings of an absolute path lead to one path, which spells the entries on the way and is its
own normal form. Following a path from a directory and following it from the normal form of the
directory leads to the same program. Paths without `.` and `..` are followed entry by entry.
-/

namespace MachineCompiler

namespace Path

/-- The path, seen from the directory above. -/
def climbing (path : Path) : Path :=
  ⟨dotDot ++ separator :: path.pieces⟩

theorem is_absolute_climbing (path : Path) : path.climbing.isAbsolute = false := rfl

/-- The step upwards comes before all others. -/
theorem components_climbing (path : Path) : path.climbing.components = .up :: path.components :=
  components_append_separated dotDot path.pieces

/-- The path has entries only: neither `.` nor `..`. -/
def IsDirect (path : Path) : Prop :=
  .here ∉ path.components ∧ .up ∉ path.components

theorem is_direct_through (segments : List Segment) : (through segments).IsDirect := by
  rw [IsDirect, components_through]
  constructor <;> simp

end Path

namespace ProgramName

/-- An empty path leads nowhere, and every other one is put behind the base. -/
theorem resolve_of_ne_nil {base path : Path} (h : path.pieces ≠ []) :
    resolve base path = ofPath (base.join path) := by
  rw [resolve, if_neg (by simpa using h)]

/-- Relative paths are walked from where the base leads to. -/
theorem resolve_of_relative {base path : Path} {name : ProgramName} (hbase : ofPath base = .ok name)
    (hrelative : path.isAbsolute = false) (hne : path.pieces ≠ []) :
    resolve base path = .ok ⟨path.components.foldl walk name.segments⟩ := by
  have habsolute := is_absolute_of_path hbase
  have hname : base.components.foldl walk [] = name.segments := by
    rw [of_path_absolute habsolute] at hbase
    exact congrArg segments (Except.ok.inj hbase)
  have hjoined : (base.join path).isAbsolute = true :=
    (Path.is_absolute_join_of_relative hrelative).trans habsolute
  rw [resolve_of_ne_nil hne, of_path_absolute hjoined, Path.components_join hrelative,
    List.foldl_append, hname]

/-- A plain name of a file is resolved to an entry of the directory. -/
theorem resolve_plain {directory : Path} {place : ProgramName}
    (hplace : ofPath directory = .ok place) {file : String} (hseparator : '/' ∉ file.toList)
    {c : Char} (hmem : c ∈ file.toList) (hc : c ≠ '.') :
    ∃ segment : Path.Segment, segment.shown = file ∧
      resolve directory (.ofString file) = .ok ⟨place.segments ++ [segment]⟩ := by
  obtain ⟨hrelative, segment, hcomponents, hshown⟩ :=
    Path.components_of_plain hseparator hmem hc
  have hne : (Path.ofString file).pieces ≠ [] := List.ne_nil_of_mem (List.mem_map_of_mem hmem)
  refine ⟨segment, hshown, ?_⟩
  rw [resolve_of_relative hplace hrelative hne, hcomponents]
  rfl

/-- Absolute paths are not looked at from the base. -/
theorem resolve_of_absolute {base path : Path} (h : path.isAbsolute = true) :
    resolve base path = .ok ⟨path.components.foldl walk []⟩ := by
  have hne : path.pieces ≠ [] := by
    intro hnil
    rw [Path.isAbsolute, hnil] at h
    contradiction
  rw [resolve_of_ne_nil hne, Path.join, if_pos h, of_path_absolute h]

/-- It only matters where the base leads to. -/
theorem resolve_congr {base base' path : Path} {name : ProgramName} (hbase : ofPath base = .ok name)
    (hbase' : ofPath base' = .ok name) (hne : path.pieces ≠ []) :
    ∃ whole, resolve base path = .ok whole ∧ resolve base' path = .ok whole := by
  cases hpath : path.isAbsolute with
  | true => exact ⟨_, resolve_of_absolute hpath, resolve_of_absolute hpath⟩
  | false => exact ⟨_, resolve_of_relative hbase hpath hne, resolve_of_relative hbase' hpath hne⟩

/-- From the root directory, a step upwards makes no difference. -/
theorem resolve_climbing_of_root {base path : Path} (hbase : ofPath base = .ok ⟨[]⟩)
    (hne : path.pieces ≠ []) : resolve base path.climbing = resolve base path := by
  have hclimbing : resolve base path.climbing = .ok ⟨path.components.foldl walk []⟩ := by
    rw [resolve_of_relative hbase path.is_absolute_climbing (List.cons_ne_nil _ _),
      Path.components_climbing]
    rfl
  cases hpath : path.isAbsolute with
  | true => rw [hclimbing, resolve_of_absolute hpath]
  | false => rw [hclimbing, resolve_of_relative hbase hpath hne]

/-- Entries are followed one after the other. -/
theorem walk_direct {path : Path} (h : path.IsDirect) (reached : List Path.Segment) :
    (path.components.foldl walk reached).map .entry = reached.map .entry ++ path.components := by
  obtain ⟨hhere, hup⟩ := h
  generalize path.components = components at hhere hup
  induction components generalizing reached with
  | nil => exact (List.append_nil _).symm
  | cons component rest ih =>
    rw [List.mem_cons, not_or] at hhere hup
    cases component with
    | here => exact absurd rfl hhere.1
    | up => exact absurd rfl hup.1
    | entry segment =>
      rw [List.foldl_cons, ih _ hhere.2 hup.2, walk, List.map_append, List.append_assoc]
      rfl

/-- Every absolute path has a normal form: an absolute path without `.` and `..` that is its own
normal form, and that has the same components if there were none to begin with. Whatever is resolved
against an absolute base is resolved alike against the normal form of the base, entry by entry if
it is relative and has entries only. Above the root directory is the root directory. -/
theorem normal_form_is_canonical :
    (∀ path : Path, path.isAbsolute = true → ∃ name, ofPath path = .ok name ∧
      name.path.isAbsolute = true ∧ name.path.IsDirect ∧ ofPath name.path = .ok name ∧
      (path.IsDirect → name.path.components = path.components)) ∧
    (∀ base path : Path, base.isAbsolute = true → path.pieces ≠ [] →
      ∃ name whole, ofPath base = .ok name ∧ resolve base path = .ok whole ∧
        resolve name.path path = .ok whole ∧
        (path.isAbsolute = true → ofPath path = .ok whole) ∧
        (path.isAbsolute = false → path.IsDirect →
          whole.path.components = name.path.components ++ path.components)) ∧
    ∀ base path : Path, ofPath base = .ok ⟨[]⟩ → path.pieces ≠ [] →
      resolve base path.climbing = resolve base path := by
  have hcomponents (name : ProgramName) : name.path.components = name.segments.map .entry :=
    Path.components_through _
  refine ⟨fun path habsolute => ?_, fun base path habsolute hne => ?_,
    fun base path => resolve_climbing_of_root⟩
  · refine ⟨_, of_path_absolute habsolute, rfl, Path.is_direct_through _, of_path_path _,
      fun hdirect => ?_⟩
    rw [hcomponents, walk_direct hdirect, List.map_nil, List.nil_append]
  · have hbase := of_path_absolute habsolute
    obtain ⟨whole, hwhole, hwhole'⟩ := resolve_congr hbase (of_path_path _) hne
    refine ⟨_, whole, hbase, hwhole, hwhole', fun hroot => ?_, fun hrelative hdirect => ?_⟩
    · rw [← hwhole, resolve_of_absolute hroot, of_path_absolute hroot]
    · rw [resolve_of_relative hbase hrelative hne] at hwhole
      obtain rfl := Except.ok.inj hwhole
      rw [hcomponents, hcomponents, walk_direct hdirect]

/-- A base that is spelled in a roundabout way leads to the root directory. What is looked for from
there is found at `/a/b`, however far the path climbs. -/
theorem normal_form_is_canonical_at_root :
    let base := Path.ofString "/w/./lib//../.."
    let path := Path.ofString "..//a/./b"
    base.isAbsolute = true ∧ path.pieces ≠ [] ∧ ofPath base = .ok ⟨[]⟩ ∧
      (∃ name, ofPath base = .ok name ∧ name.path.isAbsolute = true ∧ name.path.IsDirect ∧
        ofPath name.path = .ok name ∧
        (base.IsDirect → name.path.components = base.components)) ∧
      (∃ name whole, ofPath base = .ok name ∧ resolve base path = .ok whole ∧
        resolve name.path path = .ok whole ∧
        (path.isAbsolute = true → ofPath path = .ok whole) ∧
        (path.isAbsolute = false → path.IsDirect →
          whole.path.components = name.path.components ++ path.components)) ∧
      resolve base path.climbing = resolve base path ∧
      (resolve base path).map shown = .ok "/a/b" := by
  intro base path
  have habsolute : base.isAbsolute = true := rfl
  have hne : path.pieces ≠ [] := by decide
  have hroot : ofPath base = .ok ⟨[]⟩ := by decide +kernel
  obtain ⟨hnormal, hresolve, hclimb⟩ := normal_form_is_canonical
  exact ⟨habsolute, hne, hroot, hnormal base habsolute, hresolve base path habsolute hne,
    hclimb base path hroot hne, by decide +kernel⟩

end ProgramName

end MachineCompiler
