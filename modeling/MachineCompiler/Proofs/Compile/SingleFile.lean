import MachineCompiler.Proofs.Compile.Evaluation
import MachineCompiler.Source.Line
import Mathlib.Data.List.Basic

/-!
# Compiles of a single file

When the program of the input is known and nothing has to be removed first, a compile comes to what
its phases make of the parsed program. These phases follow the structure of lists, so that a compile
of a given file can be evaluated from there on.
-/

namespace MachineCompiler

open Action

variable {σ π : Type} {setup : Setup σ π} {compile : Compile σ π}

namespace Compiler

/-- What the phases after the parse make of a compile that is not profiled. -/
def afterParse (setup : Setup σ π) (compile : Compile σ π) : Compile σ π :=
  match (do
      Pipeline.runPhases []
        [Phase.install, Phase.check, Phase.generateC, Phase.generateVerification]
      advance .done : Action σ π Unit).run setup compile with
  | (.ok (), compile) => compile
  | (.error failure, compile) => conclude failure compile

/-- With nothing to remove and the program known, the phases after the parse are left. -/
theorem run_phases_of_resolved {root : ProgramName} {resolution : Source.Resolution} {parser : π}
    (hprograms : compile.installed.programs = []) (hprofile : setup.options.profile = false)
    (hroot : ProgramName.resolve compile.world.currentDirectory setup.input = .ok root)
    (hresolve : Source.resolve compile.world.files setup.parser root compile.world.parser =
      (.ok resolution, parser)) (hstage : compile.product.stage = .idle) :
    runPhases setup compile =
      afterParse setup (Phase.parsedAs setup root resolution parser compile) := by
  have hparse := Phase.run_parse_of_resolved hroot hresolve hstage
  have hreset : (reset : Action σ π Unit).run setup compile = (.ok (), compile) := by
    show (uninstall compile.installed.programs).run setup compile = _
    rw [hprograms]
    rfl
  have hpipeline : (pipeline setup.options : Pipeline σ π) = .standard := by
    rw [pipeline, if_neg (by simp [hprofile])]
  have henabled : Phase.parse.enabled setup compile = true := rfl
  have hrun : (do reset; (pipeline setup.options).run : Action σ π Unit).run setup compile =
      (do
        Pipeline.runPhases []
          [Phase.install, Phase.check, Phase.generateC, Phase.generateVerification]
        advance .done : Action σ π Unit).run setup
          (Phase.parsedAs setup root resolution parser compile) := by
    rw [run_bind, hreset, hpipeline]
    show Action.run (Pipeline.runPhases [] Pipeline.builtIn >>= fun _ => advance .done) _ _ = _
    rw [run_bind, Pipeline.builtIn, Pipeline.run_run_phases_cons, if_pos henabled,
      Pipeline.run_phase_silent, run_bind, show Phase.parse.run = Phase.runParse from rfl, hparse,
      run_bind]
  rw [runPhases, hrun]
  rfl

end Compiler

/-! ## One machine -/

namespace SingleMachine

variable {σ : Type} {file : String}

/-- A root file that declares a machine, and the files of a toolchain. -/
def tree (file : String) : FileSystem :=
  (Toolchain.laySample (.ofString "/toolchain") (.inDirectory (.ofString "/work"))).lay
    (.ofString ("/work/" ++ file)) (.file (.text "machine Main\n") .plain)

/-- The name of the root file. -/
def root (file : String) : ProgramName :=
  ⟨(Path.ofString ("/work/" ++ file)).components.foldl ProgramName.walk []⟩

/-- What the parser says to the root file. -/
def parsed (file : String) : Source.ParseOutput × Source.Declarations × List ProgramName :=
  Source.lineParser.parseFile (root file) "machine Main\n" .empty []

/-- The program of the root file. -/
def resolution (file : String) : Source.Resolution :=
  ⟨(parsed file).2.1.program, [root file], (parsed file).1.flags⟩

/-- The input names the root file, which can be read and parsed, and includes nothing. -/
structure IsPlain (file : String) : Prop where
  named : ProgramName.resolve (Path.through (tree file).currentDirectory) (.ofString file) =
    .ok (root file)
  opened : (tree file).openText (root file).path = .ok ((root file).segments, "machine Main\n")
  succeeded : (parsed file).1.succeeded = true
  includes : (parsed file).1.includes = []

theorem IsPlain.resolved (h : IsPlain file) :
    Source.resolve (tree file) Source.lineParser (root file) [] =
      (.ok (resolution file), (parsed file).2.2) :=
  Source.resolve_single h.opened rfl h.succeeded h.includes

/-- The session before the first compile, with an engine in the given state. -/
def session (file : String) (state : σ) : Session σ (List ProgramName) :=
  .start ⟨state, [], tree file, [], [], .still⟩

/-- The compiler of the toolchain with an engine. -/
def compiler (engine : ModelEngine σ) : Compiler σ (List ProgramName) :=
  ⟨engine, Source.lineParser, .inDirectory (.ofString "/toolchain")⟩

/-- A first compile of the root file comes to what the phases after the parse come to. -/
theorem IsPlain.run_phases_eq (h : IsPlain file) (engine : ModelEngine σ) (state : σ)
    {options : Options} (hprofile : options.profile = false) :
    Compiler.runPhases ((compiler engine).setup options (.ofString file))
        (session file state).begin =
      Compiler.afterParse ((compiler engine).setup options (.ofString file))
        (Phase.parsedAs ((compiler engine).setup options (.ofString file)) (root file)
          (resolution file) (parsed file).2.2 (session file state).begin) :=
  Compiler.run_phases_of_resolved rfl hprofile h.named h.resolved rfl

/-- A root file of the usual name. -/
theorem main_is_plain : IsPlain "main.p" :=
  ⟨by decide +kernel, by decide +kernel, by decide +kernel, by decide +kernel⟩

end SingleMachine

end MachineCompiler
