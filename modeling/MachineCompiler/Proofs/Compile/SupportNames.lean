import MachineCompiler.Proofs.Compile.Custody
import MachineCompiler.Proofs.ProgramName.Spelling

/-!
# Names of support and output programs

The support modules in one directory are programs of different names, and no program that the
compiler puts into the output directory has the name of one: the names end differently. The names
of the outputs of one compile end differently as well.
-/

namespace MachineCompiler

open Text

variable {directory : Path} {name : ProgramName}

namespace SupportModule

variable {module other : SupportModule}

theorem mem_all (module : SupportModule) : module ∈ all := by
  cases module <;> decide

/-- The program of the name holds a support module. -/
def isAnyIn (directory : Path) (name : ProgramName) : Bool :=
  all.any fun module =>
    match ProgramName.ofPath (module.location directory) with
    | .ok place => place == name
    | .error _ => false

theorem is_any_in_iff : isAnyIn directory name = true ↔ ∃ module, IsIn module directory name := by
  rw [isAnyIn, List.any_eq_true]
  constructor
  · rintro ⟨module, -, hplace⟩
    split at hplace
    · rename_i place hname
      exact ⟨module, place, hname, hplace⟩
    · contradiction
  · rintro ⟨module, place, hname, hplace⟩
    refine ⟨module, mem_all module, ?_⟩
    rw [hname]
    exact hplace

theorem is_any_in_congr {name' : ProgramName} (heq : (name == name') = true) :
    isAnyIn directory name = isAnyIn directory name' := by
  rw [Bool.eq_iff_iff, is_any_in_iff, is_any_in_iff]
  exact exists_congr fun module => ⟨
    fun ⟨place, hname, hplace⟩ => ⟨place, hname, BEq.trans hplace heq⟩,
    fun ⟨place, hname, hplace⟩ => ⟨place, hname, BEq.trans hplace (BEq.symm heq)⟩⟩

/-- What is no support program is no marked one either. -/
theorem not_marks_of_not_any {support : List SupportModule} (h : isAnyIn directory name = false) :
    ¬Marks support directory name := by
  rintro ⟨module, -, hin⟩
  rw [is_any_in_iff.2 ⟨module, hin⟩] at h
  contradiction

/-- What the key of a support program ends with. -/
def keyEnd (module : SupportModule) : List Char :=
  ('/' :: module.fileName.toList).flatMap lowerChar

/-- In an absolute path, the name of the module's file stands behind a separator. -/
theorem location_eq (habsolute : (module.location directory).isAbsolute = true) :
    ∃ front, module.location directory =
      ⟨front ++ Path.separator :: module.fileName.toList.map .char⟩ := by
  have hrelative : (Path.ofString module.fileName).isAbsolute = false := by
    cases module <;> decide
  obtain ⟨pieces⟩ := directory
  unfold location Path.join at habsolute ⊢
  rw [hrelative, if_neg Bool.false_ne_true] at habsolute ⊢
  -- The file is put right behind a directory that ends in the separator, or that is empty; but then
  -- the path would not be absolute.
  split at habsolute
  · rename_i hends
    rw [if_pos hends]
    obtain hempty | hlast := Bool.or_eq_true_iff.1 hends
    · obtain rfl := List.isEmpty_iff.1 hempty
      rw [show Path.mk ([] ++ (Path.ofString module.fileName).pieces) =
        Path.ofString module.fileName from rfl, hrelative] at habsolute
      contradiction
    · obtain ⟨front, rfl⟩ := List.getLast?_eq_some_iff.1 (eq_of_beq hlast)
      exact ⟨front, by simp [Path.ofString]⟩
  · rename_i hends
    rw [if_neg hends]
    exact ⟨pieces, rfl⟩

/-- The key of a support program ends with the name of its file. -/
theorem IsIn.key_end (h : module.IsIn directory name) : module.keyEnd <:+ name.key.toList := by
  obtain ⟨place, hname, hplace⟩ := h
  obtain ⟨front, hlocation⟩ := location_eq (ProgramName.is_absolute_of_path hname)
  have hseparator : Path.separator ∉ module.fileName.toList.map Piece.char := by
    cases module <;> decide
  have hmem : Piece.char '4' ∈ module.fileName.toList.map Piece.char := by
    cases module <;> decide
  -- What a capital sigma is lowered to depends on its surroundings; nothing else does.
  have hsigma : 'Σ' ∉ '/' :: module.fileName.toList := by
    cases module <;> decide
  obtain ⟨segment, hpieces, hcomponents⟩ :=
    Path.components_append_separator front hseparator hmem (by decide)
  rw [hlocation] at hname
  obtain ⟨segments, hsegments⟩ := ProgramName.segments_of_components hcomponents hname
  have hshown := ProgramName.shown_suffix hsegments
  rw [hpieces, List.map_map, show Piece.shown ∘ Piece.char = id from rfl, List.map_id] at hshown
  rw [← ProgramName.beq_iff_key.1 hplace]
  exact ProgramName.key_suffix hsigma hshown

/-- Different support modules in one directory are in different programs. -/
theorem IsIn.unique (h : module.IsIn directory name) (h' : other.IsIn directory name) :
    module = other := by
  have hdistinct : ∀ module ∈ all, ∀ other ∈ all,
      module.keyEnd <:+ other.keyEnd → module = other := by
    decide +kernel
  -- Both keys end the key of one program, so one of them ends the other. That happens for no two
  -- different files.
  obtain hend | hend := List.suffix_or_suffix_of_suffix h.key_end h'.key_end
  · exact hdistinct module (mem_all module) other (mem_all other) hend
  · exact (hdistinct other (mem_all other) module (mem_all module) hend).symm

/-- What is put behind a directory ends as it did. -/
theorem join_of_string_append (base : Path) (file suffix : String) :
    ∃ front, base.join (Path.ofString (file ++ suffix)) =
      ⟨front ++ suffix.toList.map .char⟩ := by
  have hpieces : (Path.ofString (file ++ suffix)).pieces =
      file.toList.map .char ++ suffix.toList.map .char := by
    rw [Path.ofString, String.toList_append, List.map_append]
  unfold Path.join
  split
  · exact ⟨file.toList.map .char, congrArg Path.mk hpieces⟩
  · split
    · exact ⟨base.pieces ++ file.toList.map .char, by rw [hpieces, List.append_assoc]⟩
    · exact ⟨base.pieces ++ Path.separator :: file.toList.map .char, by rw [hpieces]; simp⟩

/-- The key of a program ends with what the name of its file ends with. -/
theorem key_end_of_join {base : Path} {file suffix : String}
    (hname : ProgramName.ofPath (base.join (Path.ofString (file ++ suffix))) = .ok name)
    (hseparator : Path.separator ∉ suffix.toList.map Piece.char) {c : Char}
    (hmem : Piece.char c ∈ suffix.toList.map Piece.char) (hc : c ≠ '.')
    (hsigma : 'Σ' ∉ suffix.toList) : suffix.toList.flatMap lowerChar <:+ name.key.toList := by
  obtain ⟨front, hpath⟩ := join_of_string_append base file suffix
  obtain ⟨components, segment, hcomponents, hpart⟩ :=
    Path.components_append front hseparator hmem hc
  rw [hpath] at hname
  obtain ⟨segments, hsegments⟩ := ProgramName.segments_of_components hcomponents hname
  have hshown : suffix.toList <:+ name.shown.toList := by
    refine List.IsSuffix.trans ?_ (ProgramName.shown_suffix hsegments)
    have hpieces := hpart.map Piece.shown
    rw [List.map_map, show Piece.shown ∘ Piece.char = id from rfl, List.map_id] at hpieces
    exact hpieces.trans (List.suffix_cons _ _)
  exact ProgramName.key_suffix hsigma hshown

/-- A program that is kept in a file for a model is no support program. -/
theorem is_any_in_of_model {base : Path} {file : String}
    (hname : ProgramName.ofPath (base.join (Path.ofString (file ++ ".model"))) = .ok name) :
    isAnyIn directory name = false := by
  have hmem : Piece.char 'm' ∈ ".model".toList.map Piece.char := by decide
  have hend := key_end_of_join hname (by decide) hmem (by decide) (by decide)
  rw [← Bool.not_eq_true, is_any_in_iff]
  rintro ⟨module, hin⟩
  have happart : ∀ module ∈ all, ¬module.keyEnd <:+ ".model".toList.flatMap lowerChar ∧
      ¬".model".toList.flatMap lowerChar <:+ module.keyEnd := by
    decide +kernel
  obtain ⟨hnot, hnot'⟩ := happart module (mem_all module)
  exact (List.suffix_or_suffix_of_suffix hin.key_end hend).elim hnot hnot'

end SupportModule

/-! ## Names of output programs -/

namespace Phase

/-- What the names of the modules end with that a compile takes from its transforms. -/
def outputEndings : List String :=
  ["_CModel", "_LinkModel", "_CLinkModel", "_WithTypes", "_ZingModel"]

/-- The program that a compile keeps an output in, in the given directory. -/
def outputName (directory : Path) (rootModule ending : String) :
    Except ProgramName.Error ProgramName :=
  ProgramName.ofPath (directory.join (Path.ofString (rootModule ++ ending ++ ".model")))

/-- Different outputs are kept in programs of different names. -/
theorem output_names_apart {rootModule first second : String} {name other : ProgramName}
    (hfirst : first ∈ outputEndings) (hsecond : second ∈ outputEndings) (hne : first ≠ second)
    (hname : outputName directory rootModule first = .ok name)
    (hother : outputName directory rootModule second = .ok other) : (name == other) = false := by
  have hplain : ∀ ending ∈ outputEndings,
      Path.separator ∉ (ending ++ ".model").toList.map Piece.char ∧
        Piece.char 'm' ∈ (ending ++ ".model").toList.map Piece.char ∧
          'Σ' ∉ (ending ++ ".model").toList := by
    decide +kernel
  have happart : ∀ first ∈ outputEndings, ∀ second ∈ outputEndings, first ≠ second →
      ¬(first ++ ".model").toList.flatMap lowerChar <:+
        (second ++ ".model").toList.flatMap lowerChar := by
    decide +kernel
  have hend {ending : String} {name : ProgramName} (hending : ending ∈ outputEndings)
      (hname : outputName directory rootModule ending = .ok name) :
      (ending ++ ".model").toList.flatMap lowerChar <:+ name.key.toList := by
    obtain ⟨hseparator, hmem, hsigma⟩ := hplain ending hending
    rw [outputName, String.append_assoc] at hname
    exact SupportModule.key_end_of_join hname hseparator hmem (by decide) hsigma
  refine Bool.eq_false_iff.2 fun hsame => ?_
  have hends := hend hfirst hname
  rw [ProgramName.beq_iff_key.1 hsame] at hends
  exact (List.suffix_or_suffix_of_suffix hends (hend hsecond hother)).elim
    (happart first hfirst second hsecond hne) (happart second hsecond first hfirst hne.symm)

end Phase

end MachineCompiler
