import MachineCompiler.Text.Character

/-!
# Module names

A module is named after a file. The name is made legal by dropping what cannot stand in an
identifier, and free by underscores at its end.
-/

namespace MachineCompiler.ModuleName

open Text

/-- What a character of a file name becomes: a dot becomes an underscore, identifier characters
stay, all others are dropped. -/
def keep? (c : Char) : Option Char :=
  if c = '.' then some '_' else if isIdentifierChar c then some c else none

/-- The legal name closest to a file name. -/
def legal (fileName : String) : String :=
  let kept := fileName.toList.filterMap keep?
  if (kept.head?.map isLetter).getD false then String.ofList kept
  else "file_" ++ String.ofList kept

/-- `name` with the fewest underscores at its end that make it none of `reserved`. -/
def avoid (reserved : List String) (name : String) : String :=
  if _h : name ∈ reserved then avoid (reserved.erase name) (name.push '_') else name
termination_by reserved.length
decreasing_by
  rw [List.length_erase_of_mem _h]
  have := List.length_pos_of_mem _h
  omega

/-- The module name for a file, none of the reserved ones. -/
def ofFileName (reserved : List String) (fileName : String) : String :=
  avoid reserved (legal fileName)

end MachineCompiler.ModuleName
