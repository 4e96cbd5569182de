import MachineCompiler.Compile.Phase.GenerateC
import MachineCompiler.Engine.Sample
import MachineCompiler.Proofs.Compile.Bench
import MachineCompiler.Proofs.Compile.OutputNames
import MachineCompiler.Proofs.FileSystem.Writing

/-!
# Lowering to C

What the sample transforms make of a checked program, and what generating C comes to under them:
two files are generated, and the link descriptor is kept between them. The three files are written
one after the other, so the first one is still there at the end if it is not overwritten.
-/

namespace MachineCompiler

open Engine (Memory Model Program inMemory)
open SupportModule (isAnyIn)
open Text

/-! ## Transforms -/

namespace Engine.Memory

variable {memory : Memory}

/-- All models among arguments that could be read are found. -/
theorem find_model_of_read {arguments : List Argument} {read : List Model × List Term}
    (h : memory.readArguments arguments = .ok read) :
    ∀ reference, .module reference ∈ arguments →
      ∃ model, memory.findModel? reference.name = some model := by
  induction arguments generalizing read with
  | nil => exact fun _ hmem => absurd hmem List.not_mem_nil
  | cons argument rest ih =>
    cases hrest : memory.readArguments rest with
    | error error =>
      cases argument with
      | constant value => simp [readArguments, hrest, Except.map] at h
      | module first => cases hfirst : memory.findModel? first.name <;>
          simp [readArguments, hrest, hfirst, Except.map] at h
    | ok others =>
      intro reference hmem
      obtain rfl | hmem := List.mem_cons.1 hmem
      · cases hfound : memory.findModel? reference.name with
        | none => simp [readArguments, hfound] at h
        | some model => exact ⟨model, rfl⟩
      · exact ih hrest reference hmem

/-- A step that was carried out has found its transform and its models. -/
theorem run_step_ok {rules : Rules} {transform : ModuleRef} {arguments : List Argument}
    {outputs : List String} {result : ApplyResult}
    (h : memory.runStep rules ⟨transform, arguments, outputs⟩ = .ok result) :
    memory.runStep rules ⟨.named transform.name, arguments, outputs⟩ = .ok result ∧
      ∀ reference, .module reference ∈ arguments →
        ∃ model, memory.findModel? reference.name = some model := by
  unfold runStep at h
  split at h
  · contradiction
  refine ⟨h, ?_⟩
  split at h
  · contradiction
  split at h
  · contradiction
  · rename_i hread
    exact find_model_of_read hread

end Engine.Memory

namespace Engine.Sample

/-- The lowered program: a file that lists the functions. -/
def cModel (module base : String) (functions : List String) : Model where
  name := module
  domain := .named "C"
  facts := [⟨some "file", file (base ++ ".c")
    ("// functions: " ++ String.intercalate ", " functions ++ "\n")⟩]

/-- The link descriptor of a lowered program. -/
def linkModel (module base : String) : Model :=
  ⟨module, .named "PLink", [⟨none, .apply "LinkUnit" [.text base]⟩]⟩

/-- A lowered link descriptor: a file that tells the number of units. -/
def cLinkModel (module : String) (units : Nat) : Model :=
  ⟨module, .named "C", [⟨none, file "linker.c" ("// units: " ++ toString units ++ "\n")⟩]⟩

/-- A verification model: a file that lists the machines. -/
def zingModel (module source : String) (machines : List String) : Model where
  name := module
  domain := .named "Zing"
  facts := [⟨none, file source ("// machines: " ++ String.intercalate ", " machines ++ "\n")⟩]

variable {memory : Memory} {model : Model} {transform reference : ModuleRef} {result : ApplyResult}

theorem run_step_lower_to_c {base cModule linkModule : String} {flag : Term}
    (hmodel : memory.findModel? reference.name = some model) (hapart : cModule ≠ linkModule) :
    memory.runStep rules
        ⟨.named "P2CProgram", [.module reference, .constant (.text base), .constant flag],
          [cModule, linkModule]⟩ =
      .ok ⟨[(cModule, cModel cModule base (namesOf model "FunDecl")),
        (linkModule, linkModel linkModule base)], []⟩ := by
  have htransform : rules.transforms.lookup "P2CProgram" = some lowerToC := rfl
  simp only [Memory.runStep, Memory.missingTransform?, ModuleRef.named, htransform,
    Memory.readArguments, hmodel, Except.map]
  simp [lowerToC, ApplyResult.withOutput, ApplyResult.empty, ApplyResult.place, hapart, cModel,
    linkModel, firstText, namesOfFirst, Term.text?]

theorem run_step_lower_link {cLinkModule : String}
    (hmodel : memory.findModel? reference.name = some model) :
    memory.runStep rules ⟨.named "PLink2C", [.module reference], [cLinkModule]⟩ =
      .ok ⟨[(cLinkModule, cLinkModel cLinkModule model.facts.length)], []⟩ := by
  have htransform : rules.transforms.lookup "PLink2C" = some lowerLink := rfl
  simp only [Memory.runStep, Memory.missingTransform?, ModuleRef.named, htransform,
    Memory.readArguments, hmodel, Except.map]
  rfl

/-- The transform to C has made a C program and a link descriptor. -/
theorem outputs_of_lower_to_c {base cModule linkModule : String} {flag : Term}
    (hname : transform.name = "P2CProgram") (hapart : cModule ≠ linkModule)
    (h : memory.runStep rules
      ⟨transform, [.module reference, .constant (.text base), .constant flag],
        [cModule, linkModule]⟩ = .ok result) :
    ∃ functions, result.outputs = [(cModule, cModel cModule base functions),
      (linkModule, linkModel linkModule base)] := by
  obtain ⟨hstep, hmodels⟩ := Memory.run_step_ok h
  obtain ⟨model, hmodel⟩ := hmodels reference (by simp)
  rw [hname, run_step_lower_to_c hmodel hapart] at hstep
  cases hstep
  exact ⟨_, rfl⟩

/-- The transform of link descriptors has made a C program. -/
theorem outputs_of_lower_link {module : String} (hname : transform.name = "PLink2C")
    (h : memory.runStep rules ⟨transform, [.module reference], [module]⟩ = .ok result) :
    ∃ units, result.outputs = [(module, cLinkModel module units)] := by
  obtain ⟨hstep, hmodels⟩ := Memory.run_step_ok h
  obtain ⟨model, hmodel⟩ := hmodels reference (by simp)
  rw [hname, run_step_lower_link hmodel] at hstep
  cases hstep
  exact ⟨_, rfl⟩

/-- The transform to verification models has made one. -/
theorem outputs_of_lower_to_zing {typed : ModuleRef} {module source : String}
    (hname : transform.name = "P2Zing")
    (h : memory.runStep rules
      ⟨transform, [.module reference, .module typed, .constant (.text source)], [module]⟩ =
        .ok result) :
    ∃ machines, result.outputs = [(module, zingModel module source machines)] := by
  obtain ⟨hstep, hmodels⟩ := Memory.run_step_ok h
  obtain ⟨model, hmodel⟩ := hmodels reference (by simp)
  obtain ⟨other, hother⟩ := hmodels typed (by simp)
  have htransform : rules.transforms.lookup "P2Zing" = some lowerToZing := rfl
  simp only [hname, Memory.runStep, Memory.missingTransform?, ModuleRef.named, htransform,
    Memory.readArguments, hmodel, hother, Except.map] at hstep
  cases hstep
  exact ⟨_, rfl⟩

end Engine.Sample

/-! ## Paths of generated files -/

namespace Phase

/-- The file of the lowered program. -/
def cPath (directory : Path) (base : String) : Path :=
  directory.join (.ofString (base ++ ".c"))

/-- The file of the lowered link descriptor. -/
def linkerPath (directory : Path) : Path :=
  directory.join (.ofString "linker.c")

/-- The file of the verification model. -/
def zingPath (directory : Path) (base : String) : Path :=
  directory.join (.ofString (base ++ ".zing"))

/-- The file that a model is kept in. -/
def modelPath (directory : Path) (module : String) : Path :=
  directory.join (.ofString (module ++ ".model"))

end Phase

namespace FileSystem

/-- What stands at the end of a path without separators stands at the end of its place. -/
theorem place_of_append (files : FileSystem) (directory : Path) (file : String) {suffix : String}
    (hseparator : Path.separator ∉ suffix.toList.map Piece.char) {c : Char}
    (hmem : Piece.char c ∈ suffix.toList.map Piece.char) (hc : c ≠ '.') :
    ∃ segments segment,
      files.placeOf (directory.join (.ofString (file ++ suffix))) = segments ++ [segment] ∧
        suffix.toList.map .char <:+ segment.pieces := by
  obtain ⟨front, hpath⟩ := SupportModule.join_of_string_append directory file suffix
  obtain ⟨components, segment, hcomponents, hpieces⟩ :=
    Path.components_append front hseparator hmem hc
  refine ⟨components.foldl ProgramName.walk (files.origin
    (directory.join (.ofString (file ++ suffix)))), segment, ?_, hpieces⟩
  rw [placeOf, hpath, hcomponents, List.foldl_append]
  rfl

/-- Files whose names end differently are never at one place. -/
theorem place_apart_of_suffix (files : FileSystem) (directory : Path) (file other : String)
    {suffix suffix' : String} (hseparator : Path.separator ∉ suffix.toList.map Piece.char)
    (hseparator' : Path.separator ∉ suffix'.toList.map Piece.char) {c c' : Char}
    (hmem : Piece.char c ∈ suffix.toList.map Piece.char)
    (hmem' : Piece.char c' ∈ suffix'.toList.map Piece.char) (hc : c ≠ '.') (hc' : c' ≠ '.')
    (happart : ¬suffix.toList.map Piece.char <:+ suffix'.toList.map Piece.char ∧
      ¬suffix'.toList.map Piece.char <:+ suffix.toList.map Piece.char) :
    files.placeOf (directory.join (.ofString (file ++ suffix))) ≠
      files.placeOf (directory.join (.ofString (other ++ suffix'))) := by
  obtain ⟨segments, segment, hplace, hends⟩ :=
    files.place_of_append directory file hseparator hmem hc
  obtain ⟨segments', segment', hplace', hends'⟩ :=
    files.place_of_append directory other hseparator' hmem' hc'
  intro hsame
  rw [hplace, hplace'] at hsame
  obtain rfl : segment = segment' := by
    simpa using (List.append_inj' hsame rfl).2
  exact (List.suffix_or_suffix_of_suffix hends hends').elim happart.1 happart.2

/-- A C file and a file for a model are never at one place. -/
theorem c_apart_from_model (files : FileSystem) (directory : Path) (base module : String) :
    files.placeOf (Phase.cPath directory base) ≠
      files.placeOf (Phase.modelPath directory module) := by
  have hmem : Piece.char 'c' ∈ ".c".toList.map Piece.char := by decide
  have hmem' : Piece.char 'm' ∈ ".model".toList.map Piece.char := by decide
  exact files.place_apart_of_suffix directory base module (by decide) (by decide) hmem hmem'
    (by decide) (by decide) (by decide)

/-- A C file and the file of a verification model are never at one place. -/
theorem c_apart_from_zing (files : FileSystem) (directory : Path) (base base' : String) :
    files.placeOf (Phase.cPath directory base) ≠
      files.placeOf (Phase.zingPath directory base') := by
  have hmem : Piece.char 'c' ∈ ".c".toList.map Piece.char := by decide
  have hmem' : Piece.char 'z' ∈ ".zing".toList.map Piece.char := by decide
  exact files.place_apart_of_suffix directory base base' (by decide) (by decide) hmem hmem'
    (by decide) (by decide) (by decide)

end FileSystem

/-! ## Names of outputs -/

theorem Path.is_absolute_join {base : Path} (h : base.isAbsolute = true) (path : Path) :
    (base.join path).isAbsolute = true := by
  obtain ⟨pieces⟩ := base
  unfold join
  split
  · assumption
  · cases pieces with
    | nil => contradiction
    | cons first rest => split <;> exact h

theorem Bench.is_absolute_output {π : Type} (setup : Setup Memory π) (bench : Bench) :
    (bench.output setup).isAbsolute = true := by
  unfold output Options.outputDirectoryIn
  split
  · exact Path.is_absolute_join rfl _
  · rfl

namespace Phase

open Action

variable {π : Type} {setup : Setup Memory π} {bench : Bench} {directory : Path}

/-- Every output is a program of some name, as the output directory is absolute. -/
theorem exists_output_name (setup : Setup Memory π) (bench : Bench) (rootModule ending : String) :
    ∃ name, outputName (bench.output setup) rootModule ending = .ok name :=
  ⟨_, ProgramName.of_path_absolute (Path.is_absolute_join (bench.is_absolute_output setup) _)⟩

/-! ## Linking -/

/-- A link descriptor on the bench is lowered and rendered. -/
theorem makes_lower_link (hengine : setup.engine = inMemory Engine.Sample.rules)
    {module shown : String} {model : Model} {name : ProgramName} {files : FileSystem}
    (houtput : bench.output setup = directory) (hmarked : .linkTransform ∈ bench.support)
    (hmodel : bench.memory.findModel? module = some model)
    (hname : outputName directory bench.product.rootModule "_CLinkModel" = .ok name)
    (hnew : bench.IsNew setup name)
    (hsave : bench.files.save (linkerPath directory)
      ("// units: " ++ toString model.facts.length ++ "\n") = (none, files)) :
    Makes setup bench (lowerLink (.within module shown)) true
      (bench.wrote (linkerPath directory) files) := by
  have hlowered : bench.memory.runStep Engine.Sample.rules
      ⟨.named SupportModule.linkTransform.moduleName, [.module (.within module shown)],
        [bench.product.rootModule ++ "_CLinkModel"]⟩ =
      .ok ⟨[(bench.product.rootModule ++ "_CLinkModel", Engine.Sample.cLinkModel
        (bench.product.rootModule ++ "_CLinkModel") model.facts.length)], []⟩ :=
    Engine.Sample.run_step_lower_link hmodel
  refine .bind .product (.bind .support_reference (.bind (.apply hengine hmarked hlowered rfl)
    (.bind (.extract houtput hname List.lookup_cons_self)
      (.render hengine houtput hnew rfl rfl rfl ?_))))
  refine .write_one_file ?_
  rw [String.append_empty]
  exact hsave

/-- A new link descriptor is installed for as long as it is lowered. -/
theorem makes_link (hengine : setup.engine = inMemory Engine.Sample.rules) {program : Program}
    {model : Model} {name : ProgramName} {files : FileSystem}
    (houtput : bench.output setup = directory) (hmarked : .linkTransform ∈ bench.support)
    (hmodels : program.models = [model]) (hfree : bench.memory.findModel? model.name = none)
    (hprogram : bench.IsNew setup program.name)
    (hname : outputName directory bench.product.rootModule "_CLinkModel" = .ok name)
    (hnew : bench.IsNew setup name) (hapart : (program.name == name) = false)
    (hsave : bench.files.save (linkerPath directory)
      ("// units: " ++ toString model.facts.length ++ "\n") = (none, files)) :
    Makes setup bench (link program) true (bench.wrote (linkerPath directory) files) := by
  let installed := program.withSetting Engine.keepLineNumbers "TRUE"
  have hfound : (bench.adding installed).memory.findModel? model.name = some model := by
    have hheld : installed.model? model.name = some model := by
      simp [installed, Engine.Program.withSetting, Engine.Program.model?, hmodels]
    show (bench.programs ++ [installed]).findSome? _ = _
    rw [List.findSome?_append, show bench.programs.findSome? _ = none from hfree]
    simp [hheld]
  have hnew' : (bench.adding installed).IsNew setup name :=
    ⟨hnew.apart, List.forall_mem_append.2 ⟨hnew.free, List.forall_mem_singleton.2 hapart⟩⟩
  have hbody : Makes setup (bench.adding installed)
      (lowerLink (.within model.name program.name.shown)) true
      ((bench.wrote (linkerPath directory) files).adding installed) :=
    makes_lower_link hengine houtput hmarked hfound hname hnew' hsave
  have hgone : (bench.wrote (linkerPath directory) files).IsNew setup program.name :=
    ⟨hprogram.apart, hprogram.free⟩
  unfold link
  rw [hmodels]
  exact .bracket hengine hprogram hgone hbody .pure

end Phase

/-! ## Generating C -/

/-- The bench holds nothing but the root program, which has the root model. -/
structure Bench.HoldsRoot (bench : Bench) (program : Program) (model : Model) : Prop where
  programs : bench.programs = [program]
  models : program.models = [model]
  named : model.name = bench.product.rootModule
  root : bench.product.root = some program.name
  rootModule : bench.product.rootModule = Phase.rootModuleOf program.name

namespace Bench.HoldsRoot

open Phase Action

variable {π : Type} {setup : Setup Memory π} {bench : Bench} {directory : Path} {program : Program}
  {model : Model} {base : String}

/-- No output is there. -/
theorem is_new (h : bench.HoldsRoot program model) {ending : String} {name : ProgramName}
    (hending : ending ∈ outputEndings)
    (hname : outputName directory bench.product.rootModule ending = .ok name) :
    bench.IsNew setup name := by
  refine ⟨SupportModule.is_any_in_of_model hname, ?_⟩
  rw [h.rootModule] at hname
  rw [h.programs]
  exact List.forall_mem_singleton.2 (root_is_no_output hending hname)

/-- The root model is the only one. -/
theorem find_model (h : bench.HoldsRoot program model) (name : String) :
    bench.memory.findModel? name = if bench.product.rootModule = name then some model else none := by
  simp [Bench.memory, Memory.findModel?, h.programs, Engine.Program.model?, h.models, h.named]

/-- The root model is lowered to a list of its functions and a link descriptor. -/
theorem lowers (h : bench.HoldsRoot program model) {shown : String} {flag : Term} :
    bench.memory.runStep Engine.Sample.rules
      ⟨.named SupportModule.targetTransform.moduleName,
        [.module (.within bench.product.rootModule shown), .constant (.text base), .constant flag],
        [bench.product.rootModule ++ "_CModel", bench.product.rootModule ++ "_LinkModel"]⟩ =
      .ok ⟨[(bench.product.rootModule ++ "_CModel",
          Engine.Sample.cModel (bench.product.rootModule ++ "_CModel") base
            (Engine.Sample.namesOf model "FunDecl")),
        (bench.product.rootModule ++ "_LinkModel",
          Engine.Sample.linkModel (bench.product.rootModule ++ "_LinkModel") base)], []⟩ := by
  refine Engine.Sample.run_step_lower_to_c ?_ (by simp)
  exact (h.find_model _).trans (if_pos rfl)

/-- The list of functions is written to the C file. -/
theorem makes_list (h : bench.HoldsRoot program model)
    (hengine : setup.engine = inMemory Engine.Sample.rules)
    (houtput : bench.output setup = directory) {functions : List String} {name : ProgramName}
    (hname : outputName directory bench.product.rootModule "_CModel" = .ok name)
    {files : FileSystem}
    (hsave : bench.files.save (cPath directory base)
      ("// functions: " ++ String.intercalate ", " functions ++ "\n") = (none, files)) :
    Makes setup bench
      (Rendering.render ((Engine.Sample.cModel (bench.product.rootModule ++ "_CModel") base
        functions).extracted name) cRenderer "") true
      (bench.wrote (cPath directory base) files) := by
  refine .render hengine houtput (h.is_new (by decide) hname) rfl rfl rfl (.write_one_file ?_)
  rw [String.append_empty]
  exact hsave

/-- The link descriptor is linked. -/
theorem makes_link_descriptor (h : bench.HoldsRoot program model)
    (hengine : setup.engine = inMemory Engine.Sample.rules)
    (houtput : bench.output setup = directory) (hmarked : .linkTransform ∈ bench.support)
    {name : ProgramName}
    (hname : outputName directory bench.product.rootModule "_LinkModel" = .ok name)
    {files : FileSystem}
    (hsave : bench.files.save (linkerPath directory) ("// units: " ++ toString 1 ++ "\n") =
      (none, files)) :
    Makes setup bench
      (link ((Engine.Sample.linkModel (bench.product.rootModule ++ "_LinkModel") base).extracted
        name)) true
      (bench.wrote (linkerPath directory) files) := by
  obtain ⟨lowered, hlowered⟩ := exists_output_name setup bench bench.product.rootModule "_CLinkModel"
  rw [houtput] at hlowered
  have hfree : bench.memory.findModel? (bench.product.rootModule ++ "_LinkModel") = none := by
    refine (h.find_model _).trans (if_neg fun hsame => ?_)
    have hlength := congrArg String.length hsame
    simp at hlength
  exact makes_link hengine houtput hmarked rfl hfree (h.is_new (by decide) hname) hlowered
    (h.is_new (by decide) hlowered)
    (output_names_apart (by decide) (by decide) (by decide) hname hlowered) hsave

end Bench.HoldsRoot

open Action in
/-- A checked program is lowered to two files, and the first one lists its functions. -/
theorem Phase.makes_generate_c {π : Type} {setup : Setup Memory π} {bench : Bench}
    {directory : Path} {program : Program} {model : Model}
    (hengine : setup.engine = inMemory Engine.Sample.rules) (h : bench.HoldsRoot program model)
    (houtput : bench.output setup = directory) (hstage : bench.product.stage = .checked)
    (havailable : ∀ module ∈ [.targetDomain, .linkTransform, .targetTransform],
      SupportModule.Available module bench.files setup.toolchain.supportDirectory)
    (hwrites : bench.files.canWrite
      [cPath directory (setup.options.outputBase program.name),
        modelPath directory (bench.product.rootModule ++ "_LinkModel"), linkerPath directory] =
      true)
    (happart : bench.files.placeOf (cPath directory (setup.options.outputBase program.name)) ≠
      bench.files.placeOf (linkerPath directory)) :
    ∃ bench', Makes setup bench runGenerateC () bench' ∧
      bench'.product.stage = .cTargetGenerated ∧
      bench'.product.generated = bench.product.generated ++
        [cPath directory (setup.options.outputBase program.name), linkerPath directory] ∧
      bench'.files.readText (cPath directory (setup.options.outputBase program.name)) =
        .ok ("// functions: " ++ String.intercalate ", " (Engine.Sample.namesOf model "FunDecl") ++
          "\n") := by
  obtain ⟨cName, hcName⟩ := exists_output_name setup bench bench.product.rootModule "_CModel"
  obtain ⟨linkName, hlinkName⟩ :=
    exists_output_name setup bench bench.product.rootModule "_LinkModel"
  rw [houtput] at hcName hlinkName
  generalize hbase : setup.options.outputBase program.name = base at hwrites happart ⊢
  let descriptor := Engine.Sample.linkModel (bench.product.rootModule ++ "_LinkModel") base
  -- The three writes, one after the other.
  obtain ⟨first, hfirst, hrest⟩ := FileSystem.save_of_can_write hwrites
    ("// functions: " ++ String.intercalate ", " (Engine.Sample.namesOf model "FunDecl") ++ "\n")
  obtain ⟨second, hsecond, hrest⟩ := FileSystem.save_of_can_write hrest
    (descriptor.extracted linkName).print
  obtain ⟨third, hthird, -⟩ := FileSystem.save_of_can_write hrest
    ("// units: " ++ toString 1 ++ "\n")
  let supplied : Bench := { bench with
    support := [.targetDomain, .linkTransform, .targetTransform] ++ bench.support }
  let listed : Bench := supplied.wrote (cPath directory base) first
  let kept : Bench := { listed with files := second }
  have hsupplied : supplied.HoldsRoot program model := { h with }
  have hheld : kept.HoldsRoot program model := { h with }
  have hlisted : listed.output setup = directory :=
    Bench.output_of_current houtput (FileSystem.grows_of_save hfirst).current
  have hkept : kept.output setup = directory :=
    Bench.output_of_current hlisted (FileSystem.grows_of_save hsecond).current
  have hlinked : Makes setup kept (link (descriptor.extracted linkName)) true
      (kept.wrote (linkerPath directory) third) :=
    hheld.makes_link_descriptor hengine hkept (by simp [kept, listed, supplied, Bench.wrote])
      hlinkName hthird
  have hlookup (lowered : Model) : [(bench.product.rootModule ++ "_CModel", lowered),
      (bench.product.rootModule ++ "_LinkModel", descriptor)].lookup
        (bench.product.rootModule ++ "_LinkModel") = some descriptor := by
    have hother : (bench.product.rootModule ++ "_LinkModel" ==
        bench.product.rootModule ++ "_CModel") = false := beq_false_of_ne (by simp)
    rw [List.lookup_cons, hother]
    exact List.lookup_cons_self
  refine ⟨(kept.wrote (linkerPath directory) third).moved .cTargetGenerated, ?_, rfl, ?_, ?_⟩
  · refine .read_bind (.bind (.ensure_support hengine havailable) ?_)
    refine .bind .product (.bind .support_reference ?_)
    refine .bind (.root_reference h.root) (.bind (.output_base h.root) ?_)
    rw [hbase]
    refine .bind (.apply hengine (by simp) hsupplied.lowers rfl) ?_
    refine .bind (.extract houtput hcName List.lookup_cons_self) ?_
    refine .bind (hsupplied.makes_list hengine houtput hcName hfirst) ?_
    refine .bind (.extract hlisted hlinkName (hlookup _)) ?_
    refine .bind (.output_directory hlisted) (.bind (.save hsecond) (.bind hlinked ?_))
    refine .advance ?_
    show bench.product.stage.leadsTo .cTargetGenerated = true
    rw [hstage]
    rfl
  · show (bench.product.generated ++ [_]) ++ [_] = _
    rw [List.append_assoc]
    rfl
  · have hplace (path : Path) : first.placeOf path = bench.files.placeOf path :=
      (FileSystem.grows_of_save hfirst).place_of path
    have hplace' (path : Path) : second.placeOf path = bench.files.placeOf path :=
      ((FileSystem.grows_of_save hsecond).place_of path).trans (hplace path)
    refine FileSystem.read_text_save_of_ne hthird ?_ (FileSystem.read_text_save_of_ne hsecond ?_
      (FileSystem.read_text_save hfirst))
    · rw [hplace', hplace']
      exact happart
    · exact first.c_apart_from_model directory base _

end MachineCompiler
