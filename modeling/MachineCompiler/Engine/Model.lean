import MachineCompiler.Term

/-!
# Models and the programs of an engine

An engine works on models, which are facts over a domain. A program is the unit that is installed
in an engine: settings and models under a name, or the text of a program that the engine reads by
itself. Both have a printed form, which is also how they are stored in files.
-/

namespace MachineCompiler.Engine

open Text

/-- A module, with the program that it lives in where that is known. -/
structure ModuleRef where
  name : String
  location : Option String
deriving DecidableEq

namespace ModuleRef

/-- A module in a program that is not named. -/
def named (name : String) : ModuleRef := ⟨name, none⟩

/-- A module in the program at `location`. -/
def within (name location : String) : ModuleRef := ⟨name, some location⟩

/-- The printed form: the name, and the quoted location. -/
def print (reference : ModuleRef) : String :=
  match reference.location with
  | some location => reference.name ++ " at " ++ quoted location
  | none => reference.name

end ModuleRef

/-- A fact: a term, and the alias that it is bound to, if any. -/
structure Fact where
  binding : Option String
  term : Term
deriving BEq

/-- The line that a fact takes in the printed form of a model. -/
def Fact.line (fact : Fact) : String :=
  match fact.binding with
  | some name => "  " ++ name ++ " is " ++ fact.term.print ++ ".\n"
  | none => "  " ++ fact.term.print ++ ".\n"

/-- Facts over a domain, under a name. -/
structure Model where
  name : String
  domain : ModuleRef
  facts : List Fact
deriving BEq

namespace Model

/-- The facts whose term applies `functor`. -/
def factsOf (model : Model) (functor : String) : List Fact :=
  model.facts.filter fun fact => fact.term.functor? == some functor

/-- The printed form: a heading and the facts between braces, one on a line. -/
def print (model : Model) : String :=
  "model " ++ model.name ++ " of " ++ model.domain.print ++ "\n\x7b\n"
    ++ String.join (model.facts.map Fact.line) ++ "\x7d"

end Model

/-- A key with a value. -/
structure Setting where
  key : String
  value : String
deriving DecidableEq

/-- What is installed in an engine. -/
structure Program where
  name : ProgramName
  settings : List Setting
  models : List Model
  source : Option String

namespace Program

/-- The program without contents. -/
def named (name : ProgramName) : Program := ⟨name, [], [], none⟩

/-- The program that an engine reads from a text. -/
def ofSource (name : ProgramName) (source : String) : Program := ⟨name, [], [], some source⟩

/-- The program with one more setting. -/
def withSetting (program : Program) (key value : String) : Program :=
  { program with settings := program.settings ++ [⟨key, value⟩] }

/-- The program with one more model. -/
def withModel (program : Program) (model : Model) : Program :=
  { program with models := program.models ++ [model] }

/-- The value of a setting; the first one counts. -/
def setting? (program : Program) (key : String) : Option String :=
  (program.settings.find? (·.key == key)).map Setting.value

/-- The first model of a name. -/
def model? (program : Program) (name : String) : Option Model :=
  program.models.find? (·.name == name)

/-- The printed settings: a block between brackets, and nothing if there are none. -/
def printSettings (settings : List Setting) : String :=
  if settings.isEmpty then ""
  else
    "[\n"
      ++ String.join (settings.map fun setting =>
        "  " ++ setting.key ++ " = " ++ quoted setting.value ++ "\n")
      ++ "]\n\n"

/-- The printed form: settings, then the source text without blanks at its end, then the models
with empty lines between them. -/
def print (program : Program) : String :=
  printSettings program.settings
    ++ (match program.source with
      | some source => trimEnd source ++ "\n"
      | none => "")
    ++ String.intercalate "\n" (program.models.map fun model => model.print ++ "\n")

end Program

/-- The setting that keeps the lines of source files in proofs. -/
def keepLineNumbers : String := "proofs_KeepLineNumbers"

/-- The setting that selects the renderer of a program. -/
def activeRenderer : String := "parse_ActiveRenderer"

/-- What the settings begin with that register a renderer. -/
def rendererCollection : String := "parsers"

/-- What a transform is applied to. -/
inductive Argument where
  | module (reference : ModuleRef)
  | constant (value : Term)

/-- The printed form of an argument. -/
def Argument.print : Argument → String
  | .module reference => reference.name
  | .constant value => value.print

/-- The application of a transform, with names for the models that it makes. -/
structure Step where
  transform : ModuleRef
  arguments : List Argument
  outputs : List String

/-- The printed form of an application. -/
def Step.print (step : Step) : String :=
  String.intercalate ", " step.outputs ++ " = " ++ step.transform.name ++ "("
    ++ String.intercalate ", " (step.arguments.map Argument.print) ++ ")"

end MachineCompiler.Engine
