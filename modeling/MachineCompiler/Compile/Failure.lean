import MachineCompiler.Compile.Stage
import MachineCompiler.Engine.Result
import MachineCompiler.Options.File
import MachineCompiler.Toolchain.Support

/-!
# Failures

Why a compile, or a part of it, came to an end. A failure is told as a list of texts, from what was
attempted to the cause of its failure.
-/

namespace MachineCompiler

/-- Errors with a code of their own. -/
inductive CompilerError where
  | unreadable (path : Path) (reason : FileError)
  | malformedOptions
  | support (module : SupportModule) (reason : SupportError)
  | engine (verb : Engine.Verb) (reason : Engine.Error)
  | install (program : ProgramName) (reason : String)
  | uninstall (program : ProgramName) (reason : String)
  | missingOutput (module : String)
  | runtimeSupport (path : Path) (reason : FileError)
  | modelCompilerMissing (path : Path)
  | modelCompilerSpawn (path : Path) (reason : FileError)

namespace CompilerError

/-- What was attempted. -/
def message : CompilerError → String
  | .unreadable path _ => "failed to read '" ++ path.shown ++ "'"
  | .malformedOptions => "failed to parse compile options"
  | .support module _ => "could not load support module '" ++ module.moduleName ++ "'"
  | .engine verb _ => "engine " ++ verb.word ++ " failed"
  | .install program reason => "could not install '" ++ program.shown ++ "': " ++ reason
  | .uninstall program reason => "could not uninstall '" ++ program.shown ++ "': " ++ reason
  | .missingOutput module => "transform produced no module '" ++ module ++ "'"
  | .runtimeSupport path _ => "Unable to load runtime support file '" ++ path.shown ++ "'"
  | .modelCompilerMissing path => "Cannot find the model compiler at '" ++ path.shown ++ "'"
  | .modelCompilerSpawn path _ => "failed to run the model compiler '" ++ path.shown ++ "'"

/-- Why it failed, from the nearest cause to the farthest. -/
def causes : CompilerError → List String
  | .unreadable _ reason => [reason.message]
  | .support _ reason => reason.messages
  | .engine _ reason => [reason.message]
  | .runtimeSupport _ reason => [reason.message]
  | .modelCompilerSpawn _ reason => [reason.message]
  | _ => []

/-- The code of an error. -/
def code : CompilerError → String
  | .unreadable _ _ => "pcc::io"
  | .malformedOptions => "pcc::options"
  | .support _ _ => "pcc::support_module"
  | .engine _ _ => "pcc::engine"
  | .install _ _ => "pcc::install"
  | .uninstall _ _ => "pcc::uninstall"
  | .missingOutput _ => "pcc::missing_output"
  | .runtimeSupport _ _ => "pcc::runtime_support"
  | .modelCompilerMissing _ => "pcc::model_compiler_missing"
  | .modelCompilerSpawn _ _ => "pcc::model_compiler_spawn"

/-- Advice for an error that a user can mend. -/
def help? : CompilerError → Option String
  | .support _ _ =>
    some "the support modules are expected next to the compiler executable"
  | .modelCompilerMissing _ =>
    some "build the model compiler or configure its location in the toolchain"
  | _ => none

/-- The error of a file that sets no options. -/
def ofOptions : Options.LoadError → CompilerError
  | .unreadable path reason => .unreadable path reason
  | .text _ => .malformedOptions

/-- The error with its causes. -/
def messages (error : CompilerError) : List String :=
  error.message :: error.causes

end CompilerError

/-- The message of a phase that failed and has reported its own flags. -/
def phaseFailedMessage (phase : String) : String :=
  phase ++ " failed"

/-- Why an action of a compile came to an end. -/
inductive Failure where
  /-- A phase failed and has reported why. -/
  | phase (name : String)
  /-- The order of stages does not allow a move. -/
  | stage (error : StageError)
  /-- A path names no program. -/
  | badName (error : ProgramName.Error)
  /-- An error with a code of its own. -/
  | compiler (error : CompilerError)
  /-- Anything else, in texts from what was attempted to its cause. -/
  | report (messages : List String)

namespace Failure

/-- The texts of a failure, from what was attempted to its cause. -/
def messages : Failure → List String
  | .phase failed => [phaseFailedMessage failed]
  | .stage error => [error.message]
  | .badName error => [error.message]
  | .compiler error => error.messages
  | .report messages => messages

/-- All texts of a failure on one line. -/
def text (failure : Failure) : String :=
  String.intercalate ": " failure.messages

/-- The flag for a failure that no phase has reported. -/
def toFlag (failure : Failure) (program : Option ProgramName) : Flag :=
  (Flag.error failure.text .fatal).inProgram program

/-- A file could not be written. -/
def unwritten (path : Path) (reason : FileError) : Failure :=
  .report ["could not write '" ++ path.shown ++ "'", reason.message]

end Failure

end MachineCompiler
