import MachineCompiler.FileSystem.Basic
import MachineCompiler.Proofs.ProgramName.Spelling

/-!
# Places of programs

The path of a program spells the entries on the way to it and nothing else. So a program that can be
read is at the place that its name says, and programs at one place have one name.
-/

namespace MachineCompiler

open Text

namespace Path

theorem of_part_segment (segment : Segment) :
    Component.ofPart? segment.pieces = some (.entry segment) := by
  obtain ⟨pieces, hproper⟩ := segment
  rw [Component.ofPart?, if_neg hproper.2.1, if_neg hproper.2.2.1, dif_pos hproper]

/-- The components of the path through some entries are these entries. -/
theorem components_through (segments : List Segment) :
    (through segments).components = segments.map .entry := by
  have hempty : Component.ofPart? [] = none := rfl
  have hhead (rest : List Piece) : splitWhere (· == separator) (separator :: rest) =
      [] :: splitWhere (· == separator) rest := by simp [splitWhere]
  rw [components, through, hhead, List.filterMap_cons, hempty]
  cases segments with
  | nil => rfl
  | cons segment rest =>
    have hparts : ∀ part ∈ (segment :: rest).map Segment.pieces,
        ∀ piece ∈ part, (piece == separator) = false := by
      intro part hpart
      obtain ⟨segment, -, rfl⟩ := List.mem_map.1 hpart
      exact no_separator segment.proper.2.2.2
    have hsplit : splitWhere (· == separator)
        (List.intercalate [separator] ((segment :: rest).map Segment.pieces)) =
          (segment :: rest).map Segment.pieces :=
      split_intercalate (beq_self_eq_true separator) (by simp) hparts
    rw [hsplit]
    simp only [List.filterMap_map, Function.comp_def, of_part_segment]
    exact congrFun List.filterMap_eq_map' _

end Path

/-- The path of a program is a path of that program. -/
theorem ProgramName.of_path_path (name : ProgramName) : ofPath name.path = .ok name := by
  have hwalk (segments reached : List Path.Segment) :
      (segments.map Path.Component.entry).foldl walk reached = reached ++ segments := by
    induction segments generalizing reached with
    | nil => exact (List.append_nil _).symm
    | cons segment rest ih =>
      rw [List.map_cons, List.foldl_cons, ih, walk, List.append_assoc, List.singleton_append]
  rw [of_path_absolute rfl, path, Path.components_through, hwalk, List.nil_append]

namespace FileSystem

variable {files : FileSystem}

/-- Entries are followed one after the other. -/
theorem follow_entries {segments : List Path.Segment} {start location : Location}
    (h : (segments.map Path.Component.entry).foldlM files.follow start = .ok location) :
    location = start ++ segments := by
  induction segments generalizing start with
  | nil =>
    cases h
    exact (List.append_nil _).symm
  | cons segment rest ih =>
    rw [List.map_cons, List.foldlM_cons] at h
    cases hfollow : files.follow start (.entry segment) with
    | error error => rw [hfollow] at h; contradiction
    | ok next =>
      rw [hfollow] at h
      -- Only a step that stays below the longest name gets on, and it gets to the named entry.
      have hnext : next = start ++ [segment] := by
        unfold follow at hfollow
        rcases hnode : files.node? start with _ | _ | ⟨_, _⟩ <;> simp only [hnode] at hfollow
        · contradiction
        · split at hfollow <;> cases hfollow
          rfl
        · contradiction
      rw [ih h, hnext, List.append_assoc, List.singleton_append]

/-- A program is located where its name says, if it is located at all. -/
theorem locate_program {name : ProgramName} {location : Location}
    (h : files.locate name.path = .ok location) : location = name.segments := by
  unfold locate locateBy at h
  split at h
  · contradiction
  · rw [ProgramName.path, Path.components_through] at h
    exact follow_entries h

/-- A program that can be read is read from the place that its name says. -/
theorem open_program {name : ProgramName} {location : Location} {text : String}
    (h : files.openText name.path = .ok (location, text)) : location = name.segments := by
  unfold openText find at h
  cases hlocate : files.locate name.path with
  | error error => simp only [hlocate] at h; contradiction
  | ok place =>
    rw [← locate_program hlocate]
    rcases hnode : files.node? place with _ | _ | ⟨text | bytes, mode⟩ <;>
      cases hends : name.path.endsInSeparator <;> simp_all

end FileSystem

end MachineCompiler
