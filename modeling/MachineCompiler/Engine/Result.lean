import MachineCompiler.Engine.Proof

/-!
# Results of engine operations

What an engine answers: an error when an operation could not be carried out, and otherwise an
outcome with the messages that go with it.
-/

namespace MachineCompiler.Engine

/-- The operations of an engine. -/
inductive Verb where
  | install
  | uninstall
  | query
  | apply
  | render
deriving DecidableEq, Repr

/-- All operations. -/
def Verb.all : List Verb := [.install, .uninstall, .query, .apply, .render]

/-- The word for an operation. -/
def Verb.word : Verb → String
  | .install => "install"
  | .uninstall => "uninstall"
  | .query => "query"
  | .apply => "apply"
  | .render => "render"

/-- Why an engine did not carry out an operation. -/
inductive Error where
  | notStarted (verb : Verb)
  | notInstalled (program : ProgramName)
  | unknownModule (program : ProgramName) (module : String)
  | invalidPattern (pattern : String)
  | failed (reason : String)

/-- The text of an error. -/
def Error.message : Error → String
  | .notStarted verb => "the engine did not start `" ++ verb.word ++ "`"
  | .notInstalled program => "program '" ++ program.shown ++ "' is not installed"
  | .unknownModule program module =>
    "module '" ++ module ++ "' not found in program '" ++ program.shown ++ "'"
  | .invalidPattern pattern => "invalid query pattern '" ++ pattern ++ "'"
  | .failed reason => reason

/-- The outcome of installing or uninstalling programs. Each message comes with the name of what it
is about. -/
structure InstallOutcome where
  succeeded : Bool
  flags : List (String × Flag)

namespace InstallOutcome

/-- All went well. -/
def success : InstallOutcome := ⟨true, []⟩

/-- Nothing was done, for one reason. -/
def failure (node : String) (flag : Flag) : InstallOutcome := ⟨false, [(node, flag)]⟩

/-- The text of the first message. -/
def firstMessage? (outcome : InstallOutcome) : Option String :=
  outcome.flags.head?.map fun entry => entry.2.message

end InstallOutcome

/-- The outcome of a query: messages, the conclusion about its goal, and a search for proofs of a
pattern that finds at most a given number of them for each goal. -/
structure QueryOutcome where
  flags : List Flag
  conclusion : Conclusion
  enumerate : String → Nat → Except Error Enumeration

/-- The models that a transform made, under their names and in order, with messages. -/
structure ApplyResult where
  outputs : List (String × Model)
  flags : List Flag

namespace ApplyResult

/-- Nothing made. -/
def empty : ApplyResult := ⟨[], []⟩

/-- Put a model under its name. A name that is there already keeps its place. -/
def place (model : Model) : List (String × Model) → List (String × Model)
  | [] => [(model.name, model)]
  | (name, held) :: rest =>
    if name = model.name then (name, model) :: rest else (name, held) :: place model rest

/-- The result with one more model. -/
def withOutput (result : ApplyResult) (model : Model) : ApplyResult :=
  { result with outputs := place model result.outputs }

/-- The output `module` alone in a program. Its aliases begin with `start` there, so that they meet
none of the names that a user declared. -/
def extract? (result : ApplyResult) (module : String) (program : ProgramName) (start : String) :
    Option Program :=
  (result.outputs.lookup module).map fun model =>
    (Program.named program).withModel
      { model with facts := model.facts.map fun fact =>
          { fact with binding := fact.binding.map (start ++ ·) } }

end ApplyResult

/-- A text with the name of the file that it is meant for. -/
structure VirtualFile where
  name : String
  contents : String
deriving DecidableEq

/-- The virtual file that a term describes. -/
def VirtualFile.ofTerm? : Term → Option VirtualFile
  | .app "File" [.text name, .text contents] _ => some ⟨name, contents⟩
  | _ => none

/-- The outcome of rendering a module as text. -/
structure RenderResult where
  succeeded : Bool
  files : List VirtualFile
  flags : List Flag

namespace RenderResult

/-- The module was rendered. -/
def success (files : List VirtualFile) : RenderResult := ⟨true, files, []⟩

/-- The module was not rendered, for the given reasons. -/
def failure (flags : List Flag) : RenderResult := ⟨false, [], flags⟩

end RenderResult

end MachineCompiler.Engine
