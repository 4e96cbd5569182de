import MachineCompiler.ProgramName

/-!
# The identity of programs

Program names are compared by their keys, so being the same program is an equivalence, but names
of the same program need not be equal: they may be spelled differently. The program at an absolute
path depends on the steps of the path only.
-/

namespace MachineCompiler.ProgramName

/-- Names are the same program exactly when their keys agree. -/
theorem beq_iff_key {a b : ProgramName} : (a == b) = true ↔ a.key = b.key := by
  show (a.key == b.key) = true ↔ _
  exact beq_iff_eq

instance : EquivBEq ProgramName where
  rfl := beq_iff_key.2 rfl
  symm h := beq_iff_key.2 (beq_iff_key.1 h).symm
  trans h k := beq_iff_key.2 ((beq_iff_key.1 h).trans (beq_iff_key.1 k))

/-- Every absolute path names a program. -/
theorem of_path_absolute {path : Path} (h : path.isAbsolute = true) :
    ofPath path = .ok ⟨path.components.foldl walk []⟩ := by
  obtain ⟨_ | ⟨piece, rest⟩⟩ := path
  · contradiction
  · unfold ofPath
    rw [if_pos h]
    rfl

/-- Only absolute paths name programs. -/
theorem is_absolute_of_path {path : Path} {name : ProgramName} (h : ofPath path = .ok name) :
    path.isAbsolute = true := by
  unfold ofPath at h
  split at h
  · contradiction
  · split at h
    · assumption
    · contradiction

/-- Walking along a path, the steps to the same directory can be left out. -/
theorem walk_skips_here (components : List Path.Component) (reached : List Path.Segment) :
    (components.filter (· != .here)).foldl walk reached = components.foldl walk reached := by
  induction components generalizing reached with
  | nil => rfl
  | cons component rest ih => cases component <;> exact ih _

end MachineCompiler.ProgramName
