import MachineCompiler.Engine.Sample
import MachineCompiler.Proofs.Compile.Evaluation
import MachineCompiler.Proofs.Compile.Tracking
import MachineCompiler.Proofs.Diagnostic.Canonical
import MachineCompiler.Proofs.FileSystem.Saving
import MachineCompiler.Source.Line

/-!
# The files of a rendering

A model that was rendered is written file by file. Files may be refused, because their names are
no names of files or because what is written before them is in their way, and all the others are
written nevertheless. What a rendering leaves is said in terms of these attempts: its messages, the
files it counts as generated, its errors, its answer, and what the files hold.
-/

namespace MachineCompiler

open FileSystem (Write)

variable {σ π α β : Type} {setup : Setup σ π} {compile after : Compile σ π}

/-- An error that is put in other words is an error still. -/
theorem map_error_eq_ok {ε ε' : Type} {f : ε → ε'} {result : Except ε α} {value : α} :
    result.mapError f = .ok value ↔ result = .ok value := by
  cases result <;> simp [Except.mapError]

/-- What a user sees of a compile: the files, the messages, and what the compile has produced. -/
def Compile.visible (compile : Compile σ π) : FileSystem × Transcript × Product :=
  (compile.world.files, compile.world.transcript, compile.product)

namespace Action

/-- A sequence of two actions has a value when both have. -/
theorem run_bind_eq_ok {action : Action σ π α} {next : α → Action σ π β} {value : β} :
    (action >>= next).run setup compile = (.ok value, after) ↔
      ∃ first between, action.run setup compile = (.ok first, between) ∧
        (next first).run setup between = (.ok value, after) := by
  rw [run_bind]
  rcases action.run setup compile with ⟨_ | first, between⟩ <;> simp

/-- A program that is installed for a while is nothing that a user sees. -/
theorem run_install_temporary_ok {program : Engine.Program} {value : Unit}
    (h : (installTemporary program).run setup compile = (.ok value, after)) :
    after.world.engine = (setup.engine.install program compile.world.engine).2 ∧
      after.visible = compile.visible := by
  unfold installTemporary at h
  rw [run_bind, run_install] at h
  rcases hanswer : setup.engine.install program compile.world.engine with
    ⟨_ | ⟨_ | _, _⟩, engine⟩ <;> rw [hanswer] at h <;> cases h
  exact ⟨rfl, rfl⟩

/-- Neither is its removal. -/
theorem run_uninstall_ok {name : ProgramName} {value : Unit}
    (h : (uninstall [name]).run setup compile = (.ok value, after)) :
    after.visible = compile.visible := by
  rw [run_uninstall] at h
  rcases hanswer : setup.engine.uninstall [name] compile.world.engine with
    ⟨_ | ⟨_ | _, _⟩, engine⟩ <;> rw [hanswer] at h <;> cases h
  rfl

/-- A question to the engine and its answer are nothing that a user sees. -/
theorem run_attempt_ask_ok {verb : Engine.Verb} {operation : σ → Except Engine.Error α × σ}
    {answer : Except Failure α}
    (h : (Rendering.attempt (ask verb operation)).run setup compile = (.ok answer, after)) :
    answer = (operation compile.world.engine).1.mapError
        (fun error => .compiler (.engine verb error)) ∧
      after.visible = compile.visible := by
  rw [run_attempt, run_ask] at h
  obtain ⟨hanswer, rfl⟩ := Prod.mk.inj h
  exact ⟨(Except.ok.inj hanswer).symm, rfl⟩

theorem run_pure (value : α) :
    (pure value : Action σ π α).run setup compile = (.ok value, compile) :=
  rfl

theorem run_output_directory :
    (outputDirectory : Action σ π Path).run setup compile =
      (.ok (setup.options.outputDirectoryIn compile.world.currentDirectory), compile) :=
  rfl

end Action

namespace Rendering

open Action

/-- The rendered files as they are written: in a directory, with the appendix at the end. -/
def writesOf (directory : Path) (appendix : String) (rendered : List Engine.VirtualFile) :
    List Write :=
  rendered.map fun file => ⟨directory.join (.ofString file.name), file.contents ++ appendix⟩

/-- The message before a file is written. -/
def announcement (file : Engine.VirtualFile) : Message :=
  ⟨.info, "Writing " ++ file.name ++ " ..."⟩

/-- The error for a file that could not be written. -/
def unsaved (path : Path) (reason : FileError) : Flag :=
  .error ("Could not save file " ++ path.shown ++ " - " ++ (Failure.unwritten path reason).text)
    .saveFailed

/-- The paths of the files that were written. -/
def writtenPaths (attempts : List (Write × Option FileError)) : List Path :=
  (attempts.filter (·.2.isNone)).map (·.1.path)

/-- The errors for the files that could not be written. -/
def unsavedFlags (attempts : List (Write × Option FileError)) : List Flag :=
  attempts.filterMap fun attempt => attempt.2.map (unsaved attempt.1.path)

/-- The compile after files were written. -/
def wrote (compile : Compile σ π) (directory : Path) (appendix : String)
    (rendered : List Engine.VirtualFile) : Compile σ π :=
  let writes := writesOf directory appendix rendered
  let attempts := compile.world.files.attempts writes
  { compile with
    world := { compile.world with
      files := (compile.world.files.saveAll writes).2
      transcript := compile.world.transcript ++ rendered.map announcement }
    product := { compile.product with
      diagnostics := compile.product.diagnostics.addAll (unsavedFlags attempts)
      generated := compile.product.generated ++ writtenPaths attempts } }

variable {directory : Path} {appendix : String}

theorem files_wrote (compile : Compile σ π) (rendered : List Engine.VirtualFile) :
    (wrote compile directory appendix rendered).world.files =
      (compile.world.files.saveAll (writesOf directory appendix rendered)).2 :=
  rfl

/-- Files that are written after others are written on what these have left. -/
theorem wrote_append (compile : Compile σ π) (first second : List Engine.VirtualFile) :
    wrote (wrote compile directory appendix first) directory appendix second =
      wrote compile directory appendix (first ++ second) := by
  simp only [wrote, writesOf, List.map_append, FileSystem.save_all_append,
    FileSystem.attempts_append, unsavedFlags, writtenPaths, List.filterMap_append,
    List.filter_append, List.append_assoc, Diagnostics.add_all_append]

/-- One file is announced and written, or an error is recorded. -/
theorem run_write_file (compile : Compile σ π) (file : Engine.VirtualFile) :
    (writeFile directory appendix file).run setup compile =
      (.ok (compile.world.files.saveAll (writesOf directory appendix [file])).1,
        wrote compile directory appendix [file]) := by
  rw [wrote, writeFile]
  simp only [Action.progress, run_bind, run_in_world, World.save, World.write, writesOf,
    List.map_cons, List.map_nil, FileSystem.saveAll, FileSystem.attempts]
  rcases compile.world.files.save (directory.join (.ofString file.name))
    (file.contents ++ appendix) with ⟨_ | reason, made⟩
  · rfl
  · simp only [writtenPaths, Option.isNone_some, Bool.false_eq_true, not_false_eq_true,
      List.filter_cons_of_neg, List.filter_nil, List.map_nil, List.append_nil]
    rfl

/-- Files are written one after the other, whatever becomes of those before. -/
theorem run_write_files (compile : Compile σ π) (rendered : List Engine.VirtualFile) :
    (writeFiles directory appendix rendered).run setup compile =
      (.ok (compile.world.files.saveAll (writesOf directory appendix rendered)).1,
        wrote compile directory appendix rendered) := by
  induction rendered generalizing compile with
  | nil =>
    have hnothing : wrote compile directory appendix [] = compile := by
      simp only [wrote, List.map_nil, writtenPaths, FileSystem.attempts, writesOf, List.filter_nil,
        List.append_nil]
      rfl
    rw [hnothing]
    rfl
  | cons file rest ih =>
    have hsplit : writesOf directory appendix (file :: rest) =
        writesOf directory appendix [file] ++ writesOf directory appendix rest := rfl
    rw [← List.singleton_append, ← wrote_append, List.singleton_append, hsplit,
      FileSystem.save_all_append, writeFiles, run_bind, run_write_file]
    show Action.run (_ >>= _) _ _ = _
    simp only [run_bind, ih, files_wrote, run_pure]

/-- What is asked while a program is installed for a while has an answer if the whole does not fail,
and nothing of it is seen by a user. -/
theorem run_bracket_ok {program : Engine.Program} {verb : Engine.Verb}
    {operation : σ → Except Engine.Error α × σ} {next : α → Action σ π β} {value : β}
    (h : Action.run (do
      installTemporary program
      let outcome ← attempt (ask verb operation)
      uninstall [program.name]
      let answer ← ofExcept id outcome
      next answer) setup compile = (.ok value, after)) :
    ∃ answer between,
      (operation (setup.engine.install program compile.world.engine).2).1 = .ok answer ∧
      between.visible = compile.visible ∧ (next answer).run setup between = (.ok value, after) := by
  obtain ⟨_, installed, hinstall, h⟩ := run_bind_eq_ok.1 h
  obtain ⟨outcome, asked, hask, h⟩ := run_bind_eq_ok.1 h
  obtain ⟨_, removed, hremove, h⟩ := run_bind_eq_ok.1 h
  obtain ⟨answer, between, hanswer, hnext⟩ := run_bind_eq_ok.1 h
  obtain ⟨hengine, hinstalled⟩ := run_install_temporary_ok hinstall
  obtain ⟨houtcome, hasked⟩ := run_attempt_ask_ok hask
  have hfound : outcome = .ok answer ∧ removed = between := by
    cases outcome <;> cases hanswer
    exact ⟨rfl, rfl⟩
  obtain ⟨rfl, rfl⟩ := hfound
  rw [hengine] at houtcome
  exact ⟨answer, removed, map_error_eq_ok.1 houtcome.symm,
    (run_uninstall_ok hremove).trans (hasked.trans hinstalled), hnext⟩

/-- What a rendering that does not fail comes to: the engine has rendered the first model of the
program, and if it succeeded in that, the files were written. -/
theorem run_render_ok {program : Engine.Program} {renderer : String} {done : Bool}
    (h : (render program renderer appendix).run setup compile = (.ok done, after)) :
    ∃ model rendered between, program.models.head? = some model ∧
      (setup.engine.render program.name model.name
        (setup.engine.install (withRenderer program renderer) compile.world.engine).2).1 =
          .ok rendered ∧
      between.visible = (compile.world.files, compile.world.transcript, { compile.product with
        diagnostics := compile.product.diagnostics.addAll rendered.flags }) ∧
      (done, after) =
        if rendered.succeeded then
          let directory := setup.options.outputDirectoryIn between.world.currentDirectory
          ((between.world.files.saveAll (writesOf directory appendix rendered.files)).1,
            wrote between directory appendix rendered.files)
        else (false, between) := by
  unfold render at h
  obtain ⟨_, _, hread, h⟩ := run_bind_eq_ok.1 h
  cases hread
  cases hmodel : program.models.head? with
  | none =>
    rw [hmodel] at h
    cases h
  | some model =>
    rw [hmodel] at h
    obtain ⟨rendered, answered, hrendered, hvisible, h⟩ := run_bracket_ok h
    obtain ⟨_, flagged, hflag, hlast⟩ := run_bind_eq_ok.1 h
    refine ⟨model, rendered, flagged, rfl, hrendered, ?flagged, ?result⟩
    case flagged =>
      obtain ⟨hfiles, hrest⟩ := Prod.mk.inj hvisible
      obtain ⟨htranscript, hproduct⟩ := Prod.mk.inj hrest
      rw [← hfiles, ← htranscript, ← hproduct]
      cases hflag
      rfl
    case result =>
      cases hsucceeded : rendered.succeeded with
      | false =>
        rw [hsucceeded] at hlast
        cases hlast
        rfl
      | true =>
        rw [hsucceeded, if_pos rfl, run_bind, run_output_directory] at hlast
        obtain ⟨hdone, rfl⟩ := Prod.mk.inj (hlast.symm.trans (run_write_files ..))
        rw [Except.ok.inj hdone]
        rfl

/-- Rendered files are accounted for: each is announced and attempted, whatever becomes of those
before, the written ones count as generated, there is an error for each of the others, and the
answer tells whether there are others. -/
structure Accounts (directory : Path) (appendix : String) (rendered : List Engine.VirtualFile)
    (attempts : List (Write × Option FileError)) (diagnostics : Diagnostics)
    (compile after : Compile σ π) (done : Bool) : Prop where
  announced : after.world.transcript = compile.world.transcript ++ rendered.map announcement
  every : attempts.map Prod.fst = writesOf directory appendix rendered
  attempted : attempts = compile.world.files.attempts (attempts.map Prod.fst)
  saved : after.world.files = (compile.world.files.saveAll (attempts.map Prod.fst)).2
  generated : after.product.generated = compile.product.generated ++ writtenPaths attempts
  reported : after.product.diagnostics = diagnostics.addAll (unsavedFlags attempts)
  /-- Each refused file is named by an error. -/
  named : ∀ attempt ∈ attempts, ∀ reason, attempt.2 = some reason →
    ∃ flag ∈ after.product.diagnostics.flags,
      flag.severity = .error ∧ flag.code = .saveFailed ∧
      flag.message = "Could not save file " ++ attempt.1.path.shown ++ " - " ++
        (Failure.unwritten attempt.1.path reason).text
  /-- Each path that was written leads to the text that was written last at its place. -/
  held : ∀ attempt ∈ attempts, attempt.2 = none → ∃ before last later,
    attempts = before ++ (last, none) :: later ∧
    compile.world.files.placeOf last.path = compile.world.files.placeOf attempt.1.path ∧
    (∀ other ∈ later, other.2 = none →
      compile.world.files.placeOf other.1.path ≠ compile.world.files.placeOf attempt.1.path) ∧
    after.world.files.readText attempt.1.path = .ok last.text
  answer : done = true ↔ ∀ attempt ∈ attempts, attempt.2 = none

/-- A refused file has an error among all that are recorded. -/
theorem unsaved_is_held (diagnostics : Diagnostics) {attempts : List (Write × Option FileError)}
    {attempt : Write × Option FileError} {reason : FileError} (hattempt : attempt ∈ attempts)
    (hrefused : attempt.2 = some reason) :
    ∃ flag ∈ (diagnostics.addAll (unsavedFlags attempts)).flags,
      (unsaved attempt.1.path reason == flag) = true := by
  have hmem : unsaved attempt.1.path reason ∈ unsavedFlags attempts :=
    List.mem_filterMap.2 ⟨attempt, hattempt, by rw [hrefused]; rfl⟩
  exact Diagnostics.holds_iff.1
    (Diagnostics.holds_add_all.2 (.inl ⟨_, hmem, Std.ReflCmp.compare_self⟩))

/-- Files that were written are accounted for. -/
theorem accounts_wrote (compile : Compile σ π) (directory : Path) (appendix : String)
    (rendered : List Engine.VirtualFile) :
    Accounts directory appendix rendered
      (compile.world.files.attempts (writesOf directory appendix rendered))
      compile.product.diagnostics compile (wrote compile directory appendix rendered)
      (compile.world.files.saveAll (writesOf directory appendix rendered)).1 where
  announced := rfl
  every := FileSystem.map_fst_attempts ..
  attempted := by rw [FileSystem.map_fst_attempts]
  saved := by rw [FileSystem.map_fst_attempts]; rfl
  generated := rfl
  reported := rfl
  named attempt hattempt reason hrefused := by
    obtain ⟨flag, hflag, hsame⟩ :=
      unsaved_is_held compile.product.diagnostics hattempt hrefused
    obtain ⟨hseverity, -, hmessage, hcode, -⟩ := Flag.beq_iff.1 hsame
    exact ⟨flag, hflag, hseverity.symm, hcode.symm, hmessage.symm⟩
  held attempt hattempt hdone := FileSystem.read_text_last hattempt hdone
  answer := FileSystem.save_all_iff

/-- A rendering that does not fail answers whether everything was rendered and written, and accounts
for it: when the engine could not render the program, nothing is written, and otherwise every file
is attempted. -/
theorem rendering_accounts_for_files {program : Engine.Program} {renderer appendix : String}
    {done : Bool} (h : (render program renderer appendix).run setup compile = (.ok done, after)) :
    ∃ model rendered, program.models.head? = some model ∧
      (setup.engine.render program.name model.name
        (setup.engine.install (withRenderer program renderer) compile.world.engine).2).1 =
          .ok rendered ∧
      let diagnostics := compile.product.diagnostics.addAll rendered.flags
      let directory := setup.options.outputDirectoryIn compile.world.currentDirectory
      (rendered.succeeded = false → done = false ∧ after.visible =
        (compile.world.files, compile.world.transcript, { compile.product with diagnostics })) ∧
      (rendered.succeeded = true → ∃ attempts,
        Accounts directory appendix rendered.files attempts diagnostics compile after done) := by
  obtain ⟨model, rendered, between, hmodel, hrendered, hvisible, hresult⟩ := run_render_ok h
  obtain ⟨hfiles, hrest⟩ := Prod.mk.inj hvisible
  obtain ⟨htranscript, hproduct⟩ := Prod.mk.inj hrest
  refine ⟨model, rendered, hmodel, hrendered, fun hfailed => ?_, fun hsucceeded => ?_⟩
  · rw [hfailed] at hresult
    cases hresult
    exact ⟨rfl, hvisible⟩
  · rw [hsucceeded, if_pos rfl] at hresult
    obtain ⟨rfl, rfl⟩ := Prod.mk.inj hresult
    have hdirectory : between.world.currentDirectory = compile.world.currentDirectory := by
      rw [World.currentDirectory, hfiles, World.currentDirectory]
    have haccounts := accounts_wrote between
      (setup.options.outputDirectoryIn compile.world.currentDirectory) appendix rendered.files
    rw [hdirectory]
    -- What was there before the files were written is what was there before the rendering.
    exact ⟨_, { haccounts with
      announced := htranscript ▸ haccounts.announced
      attempted := hfiles ▸ haccounts.attempted
      saved := hfiles ▸ haccounts.saved
      generated := by rw [haccounts.generated, hproduct]
      reported := by rw [haccounts.reported, hproduct]
      held := hfiles ▸ haccounts.held }⟩

/-! ## Files that are in each other's way -/

namespace CrowdedFiles

/-- The fact that describes a file. -/
def described (file : Engine.VirtualFile) : Engine.Fact :=
  ⟨none, .apply "File" [.text file.name, .text file.contents]⟩

/-- A file, one with the name of its directory, one that takes it for a directory, the file once
more under a longer name, and another file. -/
def rendered : List Engine.VirtualFile :=
  [⟨"lib/a.h", "1"⟩, ⟨"lib", "2"⟩, ⟨"lib/a.h/b.h", "3"⟩, ⟨"lib/../lib/a.h", "4"⟩, ⟨"c.h", "5"⟩]

/-- A program whose model describes the files. -/
def program : Engine.Program :=
  (Engine.Program.named
    ⟨(Path.ofString "/work/Out.model").components.foldl ProgramName.walk []⟩).withModel
      ⟨"Out", .named "P", rendered.map described⟩

/-- A compile with an engine in memory. -/
def given : Setup Engine.Memory (List ProgramName) :=
  ⟨Engine.inMemory Engine.Sample.rules, Source.lineParser, .inDirectory (.ofString "/toolchain"),
    .default, .ofString "main.p"⟩

/-- The compile before anything was done, in an empty directory. -/
def initial : Compile Engine.Memory (List ProgramName) :=
  (Session.start ⟨.empty, [], .inDirectory (.ofString "/work"), [], [], .still⟩).begin

/-- The compile after the program was rendered. -/
def result : Except Failure Bool × Compile Engine.Memory (List ProgramName) :=
  (render program "c" " // end\n").run given initial

/-- Three of the files are written, two of them at one place, and two are refused. -/
theorem rendering_accounts_for_crowded_files :
    result.1.toOption = some false ∧
      (∃ files attempts diagnostics, Accounts (.ofString "/work") " // end\n" files attempts
        diagnostics initial result.2 false) ∧
      result.2.product.generated.map Path.shown =
        ["/work/lib/a.h", "/work/lib/../lib/a.h", "/work/c.h"] ∧
      result.2.product.diagnostics.errorCount = 2 ∧
      result.2.world.files.readText (.ofString "/work/lib/a.h") = .ok "4 // end\n" := by
  have hanswer : result.1.toOption = some false := by decide +kernel
  have hsucceeded : ((given.engine.render program.name "Out" (given.engine.install
      (withRenderer program "c") initial.world.engine).2).1.toOption.map (·.succeeded)) =
        some true := by decide +kernel
  have hdirectory : given.options.outputDirectoryIn initial.world.currentDirectory =
      .ofString "/work" := by decide +kernel
  refine ⟨hanswer, ?_, by decide +kernel, by decide +kernel, by decide +kernel⟩
  have hrun : (render program "c" " // end\n").run given initial = (.ok false, result.2) := by
    show result = _
    rcases hresult : result with ⟨failure | done, after⟩ <;> rw [hresult] at hanswer <;>
      cases hanswer
    rfl
  obtain ⟨model, found, hmodel, hfound, -, haccounts⟩ := rendering_accounts_for_files hrun
  cases hmodel
  rw [show (Engine.Model.mk "Out" _ _).name = "Out" from rfl] at hfound
  rw [hfound] at hsucceeded
  obtain ⟨attempts, hattempts⟩ := haccounts (Option.some.inj hsucceeded)
  rw [hdirectory] at hattempts
  exact ⟨_, attempts, _, hattempts⟩

end CrowdedFiles

end Rendering

end MachineCompiler
