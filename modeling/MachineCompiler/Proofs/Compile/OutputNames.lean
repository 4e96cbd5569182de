import MachineCompiler.Compile.Phase.Parse
import MachineCompiler.Proofs.Compile.SupportNames
import MachineCompiler.Proofs.ModuleName.Legality
import MachineCompiler.Proofs.ProgramName.Folding
import Mathlib.Data.List.Basic

/-!
# Root files and their outputs

The outputs of a compile are kept directly in the output directory, and none of them under the name
of the root file. The name of the root module has all underscores of the file name, those of the
outputs have more, and the underscore is the lowercase form of no other character.
-/

namespace MachineCompiler

open Text

/-! ## Names of root modules -/

namespace ModuleName

variable {reserved : List String} {fileName : String}

/-- A module name has what is kept of the file name, before and after other characters. -/
theorem of_file_name_eq (reserved : List String) (fileName : String) :
    ∃ front back, (ofFileName reserved fileName).toList = front ++ keptOf fileName ++ back := by
  obtain ⟨count, -, hcount, -⟩ := avoid_least reserved (legal fileName)
  rw [ofFileName, hcount, to_list_underscored]
  obtain ⟨hlegal, -⟩ | ⟨hlegal, -⟩ := legal_cases fileName
  · exact ⟨[], _, by rw [hlegal, List.nil_append]⟩
  · exact ⟨"file_".toList, _, by rw [hlegal]⟩

/-- A module name has no separator. -/
theorem not_mem_of_file_name : '/' ∉ (ofFileName reserved fileName).toList := by
  intro hmem
  exact absurd ((is_legal_of_file_name reserved fileName).plain '/' hmem) (by decide +kernel)

/-- All underscores are kept. -/
theorem count_of_file_name :
    fileName.toList.count '_' ≤ (ofFileName reserved fileName).toList.count '_' := by
  obtain ⟨front, back, heq⟩ := of_file_name_eq reserved fileName
  have hkept : fileName.toList.count '_' ≤ (keptOf fileName).count '_' := by
    unfold List.count keptOf
    rw [List.countP_filterMap]
    refine List.countP_mono_left fun c _ hc => ?_
    rw [eq_of_beq hc]
    decide +kernel
  rw [heq, List.count_append, List.count_append]
  omega

end ModuleName

/-! ## Outputs -/

namespace Phase

variable {directory : Path} {place root name : ProgramName} {ending : String}

theorem underscore_lowered_alone : LoweredAlone '_' :=
  lowered_alone_of_below (by decide) (by decide) (by decide +kernel)

/-- The file of an output has a plain name. -/
theorem output_file_plain (root : ProgramName) (hending : ending ∈ outputEndings) :
    '/' ∉ (rootModuleOf root ++ ending ++ ".model").toList ∧
      'm' ∈ (rootModuleOf root ++ ending ++ ".model").toList := by
  have hplain : ∀ ending ∈ outputEndings, '/' ∉ (ending ++ ".model").toList := by
    decide +kernel
  constructor
  · rw [String.append_assoc, String.toList_append, List.mem_append, not_or]
    exact ⟨ModuleName.not_mem_of_file_name, hplain ending hending⟩
  · rw [String.toList_append]
    exact List.mem_append_right _ (by decide)

/-- An output is kept directly in the directory, in the file of its own module. -/
theorem output_name_eq (root : ProgramName) (hplace : ProgramName.ofPath directory = .ok place)
    (hending : ending ∈ outputEndings) :
    ∃ name, outputName directory (rootModuleOf root) ending = .ok name ∧
      ProgramName.ofPath name.directory = .ok place ∧
      name.fileName = rootModuleOf root ++ ending ++ ".model" := by
  obtain ⟨hseparator, hmem⟩ := output_file_plain root hending
  obtain ⟨segment, hshown, hresolve⟩ :=
    ProgramName.resolve_plain hplace hseparator hmem (by decide)
  have hne : (Path.ofString (rootModuleOf root ++ ending ++ ".model")).pieces ≠ [] :=
    List.ne_nil_of_mem (List.mem_map_of_mem hmem)
  rw [ProgramName.resolve_of_ne_nil hne] at hresolve
  refine ⟨_, hresolve, ?_, ?_⟩
  · rw [ProgramName.of_path_directory, List.dropLast_concat]
  · rw [ProgramName.fileName, List.getLast?_concat]
    exact hshown

/-- Outputs have names in absolute directories only. -/
theorem is_absolute_of_output_name (hending : ending ∈ outputEndings)
    (hname : outputName directory (rootModuleOf root) ending = .ok name) :
    directory.isAbsolute = true := by
  obtain ⟨hseparator, hmem⟩ := output_file_plain root hending
  obtain ⟨hrelative, -⟩ := Path.components_of_plain hseparator hmem (by decide)
  rw [← Path.is_absolute_join_of_relative hrelative]
  exact ProgramName.is_absolute_of_path hname

/-- The root file is none of the outputs that are named after it. -/
theorem root_is_no_output {directory : Path} {root name : ProgramName} {ending : String}
    (hending : ending ∈ outputEndings)
    (hname : outputName directory (rootModuleOf root) ending = .ok name) :
    (root == name) = false := by
  have hdirectory := is_absolute_of_output_name hending hname
  obtain ⟨output, houtput, -, hfile⟩ :=
    output_name_eq root (ProgramName.of_path_absolute hdirectory) hending
  obtain rfl : output = name := Except.ok.inj (houtput.symm.trans hname)
  have hmore : ∀ ending ∈ outputEndings, 0 < (ending ++ ".model").toList.count '_' := by
    decide +kernel
  have hkept : root.fileName.toList.count '_' ≤ (rootModuleOf root).toList.count '_' :=
    ModuleName.count_of_file_name
  refine Bool.eq_false_iff.2 fun hsame => ?_
  -- Lowering changes the number of underscores in neither name.
  have hcounts := congrArg (fun text => text.toList.count '_')
    (ProgramName.lowercase_file_name hsame)
  simp only [lowercase, String.toList_ofList, underscore_lowered_alone.count_lower_after] at hcounts
  rw [hfile, String.append_assoc, String.toList_append, List.count_append] at hcounts
  have hending := hmore ending hending
  omega

/-- In every absolute directory a compile finds names for all its outputs. Each is directly in the
directory, in the file of its own module, and is neither the root file nor another output. -/
theorem outputs_never_collide {directory : Path} (habsolute : directory.isAbsolute = true)
    (root : ProgramName) :
    ∃ (place : ProgramName) (nameOf : String → ProgramName),
      ProgramName.ofPath directory = .ok place ∧
      (∀ ending ∈ outputEndings,
        outputName directory (rootModuleOf root) ending = .ok (nameOf ending) ∧
        ProgramName.ofPath (nameOf ending).directory = .ok place ∧
        (nameOf ending).fileName = rootModuleOf root ++ ending ++ ".model" ∧
        (root == nameOf ending) = false ∧
        ∀ other ∈ outputEndings, ending ≠ other → (nameOf ending == nameOf other) = false) ∧
      ∀ {σ π : Type} (setup : Setup σ π) (compile : Compile σ π),
        setup.options.outputDirectoryIn compile.world.currentDirectory = directory →
        ∀ ending ∈ outputEndings,
          (Action.outputProgram (rootModuleOf root ++ ending ++ ".model")).run setup compile =
            (.ok (nameOf ending), compile) := by
  have hplace := ProgramName.of_path_absolute habsolute
  have : Nonempty ProgramName := ⟨root⟩
  choose! nameOf hname hinside hfile using fun ending (hending : ending ∈ outputEndings) =>
    output_name_eq root hplace hending
  refine ⟨_, nameOf, hplace, fun ending hending => ⟨hname ending hending, hinside ending hending,
    hfile ending hending, root_is_no_output hending (hname ending hending),
    fun other hother hne => output_names_apart hending hother hne (hname ending hending)
      (hname other hother)⟩, ?_⟩
  rintro σ π setup compile rfl ending hending
  show Action.run (Action.ofExcept .badName (outputName _ _ _)) setup compile = _
  rw [hname ending hending]
  rfl

/-- A root file in the output directory that is the output of another root file. Its own outputs are
five other files. -/
theorem outputs_never_collide_of_twin :
    let entry (text : String) (h : Path.IsProperName (text.toList.map .char)) : Path.Segment :=
      ⟨_, h⟩
    let directory := Path.ofString "/out/./"
    let root : ProgramName := ⟨[entry "OUT" (by decide), entry "A_CMODEL.Model" (by decide)]⟩
    directory.isAbsolute = true ∧
      (outputName directory "a" "_CModel").map (root == ·) = .ok true ∧
      ∃ (place : ProgramName) (nameOf : String → ProgramName),
        ProgramName.ofPath directory = .ok place ∧
        ∀ ending ∈ outputEndings,
          outputName directory (rootModuleOf root) ending = .ok (nameOf ending) ∧
          ProgramName.ofPath (nameOf ending).directory = .ok place ∧
          (nameOf ending).fileName = rootModuleOf root ++ ending ++ ".model" ∧
          (root == nameOf ending) = false ∧
          ∀ other ∈ outputEndings, ending ≠ other → (nameOf ending == nameOf other) = false := by
  intro entry directory root
  obtain ⟨place, nameOf, hplace, hnames, -⟩ :=
    outputs_never_collide (show directory.isAbsolute = true from rfl) root
  exact ⟨rfl, by decide +kernel, place, nameOf, hplace, hnames⟩

end Phase

end MachineCompiler
