import MachineCompiler.Toolchain.Support
import MachineCompiler.FileSystem.Layout
import MachineCompiler.FileSystem.Write

/-!
# Toolchains

Where the compiler finds what it does not contain: the support modules, the compiler of
verification models, and the sources that every verification model needs at run time.
-/

namespace MachineCompiler

/-- The places of the external parts of the compiler. -/
structure Toolchain where
  supportDirectory : Path
  modelCompiler : Path
  runtimeSupport : List Path

namespace Toolchain

/-- The files that are put at the end of every generated verification file, in this order. -/
def runtimeSupportFiles : List String :=
  ["Prt.zing", "PrtTypes.zing", "PrtValues.zing"]

/-- The name of the model compiler. -/
def modelCompilerName : String := "zc"

/-- The toolchain with all its parts in one directory. -/
def inDirectory (directory : Path) : Toolchain where
  supportDirectory := directory
  modelCompiler := directory.join (Path.ofString modelCompilerName)
  runtimeSupport := runtimeSupportFiles.map fun name => directory.join (Path.ofString name)

/-- The toolchain with another model compiler. -/
def withModelCompiler (toolchain : Toolchain) (path : Path) : Toolchain :=
  { toolchain with modelCompiler := path }

/-- The files of a minimal toolchain: an empty domain for each support module, and one line for
each source needed at run time. The model compiler is not among them. -/
def sampleFiles : List (String × String) :=
  SupportModule.all.map (fun module =>
      (module.fileName, "domain " ++ module.moduleName ++ " \x7b \x7d\n"))
    ++ runtimeSupportFiles.zipIdx.map fun (name, index) =>
      (name, "// runtime " ++ toString index ++ "\n")

/-- Lay out the files of a minimal toolchain in a directory. -/
def laySample (directory : Path) (files : FileSystem) : FileSystem :=
  sampleFiles.foldl (fun files (name, text) =>
    files.lay (directory.join (Path.ofString name)) (.file (.text text) .plain)) files

end Toolchain

end MachineCompiler
