import MachineCompiler.Engine.Model
import MachineCompiler.FileSystem.Basic

/-!
# Support modules

The domains and transforms that come with the compiler. Each lives in a file of its own, which is
read once: the cache keeps what was read under the place that it was read from, and a file that
changes later is not read again.
-/

namespace MachineCompiler

open Engine

/-- The modules that come with the compiler: the domains of source programs, of generated C and of
verification models, and the transforms between them. -/
inductive SupportModule where
  | sourceDomain
  | linkTransform
  | targetDomain
  | verificationDomain
  | inferredTypesTransform
  | targetTransform
  | verificationTransform
deriving DecidableEq, Repr

namespace SupportModule

/-- All support modules. -/
def all : List SupportModule :=
  [.sourceDomain, .linkTransform, .targetDomain, .verificationDomain, .inferredTypesTransform,
    .targetTransform, .verificationTransform]

/-- The name of the module itself. -/
def moduleName : SupportModule → String
  | .sourceDomain => "P"
  | .linkTransform => "PLink2C"
  | .targetDomain => "C"
  | .verificationDomain => "Zing"
  | .inferredTypesTransform => "P2PWithInferredTypes"
  | .targetTransform => "P2CProgram"
  | .verificationTransform => "P2Zing"

/-- The name of the file that holds the module. -/
def fileName : SupportModule → String
  | .sourceDomain => "P.4ml"
  | .linkTransform => "PLink.4ml"
  | .targetDomain => "C.4ml"
  | .verificationDomain => "Zing.4ml"
  | .inferredTypesTransform => "PWithInferredTypes.4ml"
  | .targetTransform => "P2CProgram.4ml"
  | .verificationTransform => "P2Zing.4ml"

/-- The names that no other module may have. -/
def reservedNames : List String :=
  all.map moduleName

/-- The path of the module's file in a directory. -/
def location (module : SupportModule) (directory : Path) : Path :=
  directory.join (Path.ofString module.fileName)

/-- The module at its place in a directory. -/
def reference (module : SupportModule) (directory : Path) : ModuleRef :=
  .within module.moduleName (module.location directory).shown

end SupportModule

/-- Why a support module could not be read. -/
inductive SupportError where
  | unreadable (path : Path) (reason : FileError)
  | badLocation (reason : ProgramName.Error)

/-- The texts of an error, from the general one to its cause. -/
def SupportError.messages : SupportError → List String
  | .unreadable path reason =>
    ["could not read support module '" ++ path.shown ++ "'", reason.message]
  | .badLocation reason => ["invalid support module location", reason.message]

/-- The support programs read so far, under the places they were read from. -/
structure SupportCache where
  programs : List (Path × Program)

namespace SupportCache

/-- Nothing read. -/
def empty : SupportCache := ⟨[]⟩

/-- The number of programs read. -/
def size (cache : SupportCache) : Nat := cache.programs.length

/-- The path without separators and dots that make no difference to what it spells. Only absolute
paths are looked up. -/
def spelling (path : Path) : Bool × List Path.Component :=
  (path.isAbsolute, path.components.filter (· != .here))

/-- The program read from a place. -/
def find? (cache : SupportCache) (path : Path) : Option Program :=
  (cache.programs.find? fun entry => spelling entry.1 == spelling path).map Prod.snd

/-- The program of a support module in a directory: the one read before, or else the one that the
file holds now. -/
def load (cache : SupportCache) (files : FileSystem) (module : SupportModule) (directory : Path) :
    Except SupportError (Program × SupportCache) :=
  let path := module.location directory
  match cache.find? path with
  | some program => .ok (program, cache)
  | none =>
    match files.readText path with
    | .error reason => .error (.unreadable path reason)
    | .ok source =>
      match ProgramName.ofPath path with
      | .error reason => .error (.badLocation reason)
      | .ok name =>
        let program := Program.ofSource name source
        .ok (program, ⟨cache.programs ++ [(path, program)]⟩)

end SupportCache

end MachineCompiler
