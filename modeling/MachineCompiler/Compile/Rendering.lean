import MachineCompiler.Compile.Action

/-!
# Rendering models into files

A generated model is installed for as long as it takes to render it, and the files that come out
are written to the output directory. A file that cannot be written is reported, and the others are
written all the same.
-/

namespace MachineCompiler.Rendering

variable {σ π : Type}

/-- The outcome of an action, failures included. -/
def attempt {α : Type} (action : Action σ π α) : Action σ π (Except Failure α) :=
  fun setup => ExceptT.mk do
    let outcome ← (action setup).run
    return .ok outcome

/-- Write one rendered file, with `appendix` at its end, and tell whether that succeeded. -/
def writeFile (directory : Path) (appendix : String) (file : Engine.VirtualFile) :
    Action σ π Bool := do
  let path := directory.join (Path.ofString file.name)
  Action.progress ("Writing " ++ file.name ++ " ...")
  match ← Action.inWorld (World.save · path (file.contents ++ appendix)) with
  | none =>
    Action.modifyProduct fun product => { product with generated := product.generated ++ [path] }
    return true
  | some reason =>
    let message :=
      "Could not save file " ++ path.shown ++ " - " ++ (Failure.unwritten path reason).text
    Action.addFlag (.error message .saveFailed)
    return false

/-- Write all rendered files, and tell whether every one was written. -/
def writeFiles (directory : Path) (appendix : String) :
    List Engine.VirtualFile → Action σ π Bool
  | [] => return true
  | file :: rest => do
    let written ← writeFile directory appendix file
    let others ← writeFiles directory appendix rest
    return written && others

/-- The program with a renderer chosen. -/
def withRenderer (program : Engine.Program) (renderer : String) : Engine.Program :=
  (program.withSetting (Engine.rendererCollection ++ "." ++ renderer) renderer).withSetting
    Engine.activeRenderer renderer

/-- Render the first model of a program and write its files with `appendix` at the end of each.
Tells whether rendering and every write succeeded. The program is removed again before an error of
the engine is looked at. -/
def render (program : Engine.Program) (renderer appendix : String) : Action σ π Bool := do
  let setup ← read
  match program.models.head? with
  | none => Action.fail (.compiler (.missingOutput program.name.shown))
  | some model =>
    let program := withRenderer program renderer
    Action.installTemporary program
    let rendered ← attempt (Action.ask .render (setup.engine.render program.name model.name))
    Action.uninstall [program.name]
    let rendered ← Action.ofExcept id rendered
    Action.addFlags rendered.flags
    if rendered.succeeded then writeFiles (← Action.outputDirectory) appendix rendered.files
    else return false

end MachineCompiler.Rendering
