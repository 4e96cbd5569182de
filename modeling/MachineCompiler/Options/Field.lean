import MachineCompiler.Options.Basic
import MachineCompiler.Text.Quoted
import MachineCompiler.Text.ShortestDecimal

/-!
# Setting options by name

Every option has a name under which a configuration sets it. A configuration is a list of names
with values of any type; a name that is no option's, or a value of the wrong type, is refused.
-/

namespace MachineCompiler.Options

/-- The options. -/
inductive Field where
  | outputDirectory
  | outputName
  | test
  | analyze
  | noC
  | printTypes
  | shortNames
  | profile
  | emitModel
deriving DecidableEq, Repr

namespace Field

/-- All options, in the order in which they are told. -/
def all : List Field :=
  [.outputDirectory, .outputName, .test, .analyze, .noC, .printTypes, .shortNames, .profile,
    .emitModel]

/-- The name of an option in a configuration. -/
def key : Field → String
  | .outputDirectory => "output-dir"
  | .outputName => "output-name"
  | .test => "test"
  | .analyze => "analyze"
  | .noC => "no-c-output"
  | .printTypes => "print-types"
  | .shortNames => "short-names"
  | .profile => "profile"
  | .emitModel => "emit-model"

/-- The option of a name. -/
def ofKey? (key : String) : Option Field :=
  all.find? (·.key == key)

/-- The type of an option's values, in words. -/
def expected : Field → String
  | .outputDirectory => "path string"
  | .outputName => "a string"
  | _ => "a boolean"

end Field

/-- A value in a configuration. A number may be written in a way that has no value. What is in lists
and tables does not matter, because no option takes one. -/
inductive Value where
  | boolean (value : Bool)
  | integer (value : Option Int)
  | real (value : Option Float)
  | text (value : String)
  | list
  | table
  | absent

/-- Why a setting is refused. -/
inductive Fault where
  | unknownField (key : String)
  | wrongType (field : Field) (value : Value)

/-- The text for a value of the wrong type. Integers that take more than 64 bits are told with their
width. -/
def Value.wrongType (format : Text.RealFormat) (expected : String) (value : Value) : String :=
  let told (described : String) := "invalid type: " ++ described ++ ", expected " ++ expected
  match value with
  | .boolean value => told ("boolean `" ++ toString value ++ "`")
  | .integer (some value) =>
    told ("integer `" ++ toString value ++ "`" ++
      if -Int.pow 2 63 ≤ value ∧ value < Int.pow 2 64 then ""
      else if value < Int.pow 2 127 then " as i128" else " as u128")
  | .integer none => "integer number overflowed"
  | .real (some value) => told ("floating point `" ++ format.text value ++ "`")
  | .real none => "floating-point number overflowed"
  | .text value => told ("string " ++ Text.quoted value)
  | .list => told "sequence"
  | .table => told "map"
  | .absent => told "null"

/-- The text of a refusal, with floating-point numbers in the format of the configuration. -/
def Fault.message (format : Text.RealFormat) : Fault → String
  | .unknownField key =>
    let keys := Field.all.map fun field => "`" ++ field.key ++ "`"
    "unknown field `" ++ key ++ "`, expected one of " ++ String.intercalate ", " keys
  | .wrongType field value => value.wrongType format field.expected

/-- Switch an option on or off. Options that are no switches stay as they are. -/
def switch (options : Options) (field : Field) (on : Bool) : Options :=
  match field with
  | .outputDirectory | .outputName => options
  | .test => { options with test := on }
  | .analyze => { options with analyze := on }
  | .noC => { options with noC := on }
  | .printTypes => { options with printTypes := on }
  | .shortNames => { options with shortNames := on }
  | .profile => { options with profile := on }
  | .emitModel => { options with emitModel := on }

/-- Set an option to a value. The directory and the name may be absent. -/
def assign (options : Options) (field : Field) (value : Value) : Except Fault Options :=
  match field, value with
  | .outputDirectory, .text path =>
    .ok { options with outputDirectory := some (Path.ofString path) }
  | .outputDirectory, .absent => .ok { options with outputDirectory := none }
  | .outputName, .text name => .ok { options with outputName := some name }
  | .outputName, .absent => .ok { options with outputName := none }
  | .outputDirectory, value => .error (.wrongType .outputDirectory value)
  | .outputName, value => .error (.wrongType .outputName value)
  | field, .boolean on => .ok (options.switch field on)
  | field, value => .error (.wrongType field value)

/-- Set the option of a name to a value. -/
def set (options : Options) (key : String) (value : Value) : Except Fault Options :=
  match Field.ofKey? key with
  | some field => options.assign field value
  | none => .error (.unknownField key)

/-- The options that a configuration sets, in its order; the first refused setting counts. -/
def ofSettings (settings : List (String × Value)) : Except Fault Options :=
  settings.foldlM (fun options (key, value) => options.set key value) .default

end MachineCompiler.Options
