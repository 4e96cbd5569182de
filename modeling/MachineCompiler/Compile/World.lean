import MachineCompiler.Diagnostic.Transcript
import MachineCompiler.FileSystem.Write

/-!
# The world of a compile

Everything outside the compiler that it looks at or changes, as one value: the state of the engine
and of the parser, the files, the messages written so far, the runs of the model compiler, and a
clock.
-/

namespace MachineCompiler

/-- A clock that was read `next` times. Its readings are in milliseconds. -/
structure Clock where
  readings : Nat → Nat
  next : Nat

/-- The clock that stands still. -/
def Clock.still : Clock := ⟨fun _ => 0, 0⟩

/-- Everything outside the compiler, with an engine in state `σ` and a parser in state `π`. -/
structure World (σ π : Type) where
  engine : σ
  parser : π
  files : FileSystem
  transcript : Transcript
  launches : List (List String)
  clock : Clock

namespace World

variable {σ π : Type}

/-- The current directory as a path. -/
def currentDirectory (world : World σ π) : Path :=
  Path.through world.files.currentDirectory

/-- Write a message. -/
def write (world : World σ π) (severity : Severity) (text : String) : World σ π :=
  { world with transcript := world.transcript ++ [⟨severity, text⟩] }

/-- Read the clock. -/
def readClock (world : World σ π) : Nat × World σ π :=
  let clock := world.clock
  (clock.readings clock.next, { world with clock := { clock with next := clock.next + 1 } })

/-- Write a file together with the missing directories above it. -/
def save (world : World σ π) (path : Path) (text : String) : Option FileError × World σ π :=
  let (error, files) := world.files.save path text
  (error, { world with files })

/-- Run a program with arguments. -/
def launch (world : World σ π) (path : Path) (arguments : List Path) :
    Except FileError ToolReport × World σ π :=
  match world.files.launch path arguments with
  | .error error => (.error error, world)
  | .ok report =>
    (.ok report, { world with launches := world.launches ++ [arguments.map Path.shown] })

end World

end MachineCompiler
