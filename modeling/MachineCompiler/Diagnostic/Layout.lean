import MachineCompiler.Diagnostic.Flag

/-!
# Flags as lines of text

A flag is printed on one line, in a compact layout with its start only, or in a verbose one with
its whole region and an error number.
-/

namespace MachineCompiler

/-- The number printed with every flag in the verbose layout. -/
def errorNumber : String := "PC1001"

/-- The layout of a printed flag. -/
inductive FlagStyle where
  | compact
  | verbose
deriving DecidableEq

/-- How much of the owning program's path is printed. -/
inductive FileNames where
  | full
  | short
deriving DecidableEq

/-- The layout of flags and of the file names in them. -/
structure FlagLayout where
  style : FlagStyle
  fileNames : FileNames
deriving DecidableEq

/-- The owning program as it is printed; a question mark if there is none. -/
def FlagLayout.programText (layout : FlagLayout) : Option ProgramName → String
  | none => "?"
  | some program =>
    match layout.fileNames with
    | .short => program.fileName
    | .full => program.shown

/-- The line for a flag. -/
def FlagLayout.line (layout : FlagLayout) (flag : Flag) : String :=
  let program := layout.programText flag.program
  let span := flag.span
  match layout.style with
  | .compact =>
    program ++ " (" ++ toString span.startLine ++ ", " ++ toString span.startColumn ++ "): "
      ++ flag.message
  | .verbose =>
    program ++ "(" ++ toString span.startLine ++ "," ++ toString span.startColumn ++ ","
      ++ toString span.endLine ++ "," ++ toString span.endColumn ++ "): error " ++ errorNumber
      ++ ": " ++ flag.message

end MachineCompiler
