import MachineCompiler.Diagnostic.Layout

/-!
# Options

What a user can choose about a compile: where the generated files go and what they are called, how
far the compile goes, and what it reports.
-/

namespace MachineCompiler

/-- The options of a compile. -/
structure Options where
  /-- The directory that generated files go to; the current directory if there is none. -/
  outputDirectory : Option Path
  /-- The base name of generated files; the name of the input file if there is none. -/
  outputName : Option String
  /-- Keep specification machines and generate the verification model. -/
  test : Bool
  /-- Stop after the check. -/
  analyze : Bool
  /-- Generate no C. -/
  noC : Bool
  /-- Report the inferred types of expressions. -/
  printTypes : Bool
  /-- Print file names instead of paths. -/
  shortNames : Bool
  /-- Report how long each phase takes. -/
  profile : Bool
  /-- Write the model of the program next to the generated files. -/
  emitModel : Bool
deriving DecidableEq

namespace Options

/-- The options of a user who chooses nothing. -/
def default : Options :=
  ⟨none, none, false, false, false, false, false, false, false⟩

instance : Inhabited Options := ⟨default⟩

/-- The directory that generated files go to. A relative one is looked up in the current directory
`current`. -/
def outputDirectoryIn (options : Options) (current : Path) : Path :=
  match options.outputDirectory with
  | some directory => current.join directory
  | none => current

/-- The base name of generated files for a root file. -/
def outputBase (options : Options) (root : ProgramName) : String :=
  options.outputName.getD root.fileStem

/-- How flags are printed. Tests compare them without regions and error numbers. -/
def flagLayout (options : Options) : FlagLayout where
  style := if options.test then .compact else .verbose
  fileNames := if options.shortNames then .short else .full

end Options

end MachineCompiler
