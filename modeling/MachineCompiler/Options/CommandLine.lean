import MachineCompiler.Options.Field
import MachineCompiler.Text.Words

/-!
# Options on a command line

Switches are given as `--test`, the directory and the name as `--output-name NAME` or
`--output-name=NAME`. No option is given twice, and nothing else is taken but `--help`, and `--`
with nothing behind it.
-/

namespace MachineCompiler.Options

open Text

/-- Why a command line is not taken. Asking for help is one of the reasons. -/
inductive CommandLineError where
  | unknownArgument
  | missingValue
  | emptyPath
  | repeated (field : Field)
  | unwantedValue
  | help
deriving DecidableEq, Repr

/-- The kind of an error, for those who only need to know what to do about it. -/
def CommandLineError.kind : CommandLineError → String
  | .unknownArgument => "UnknownArgument"
  | .missingValue => "InvalidValue"
  | .emptyPath => "InvalidValue"
  | .repeated _ => "ArgumentConflict"
  | .unwantedValue => "TooManyValues"
  | .help => "DisplayHelp"

/-- The name of an option on a command line, without the dashes. -/
def Field.longName : Field → String
  | .noC => "no-c"
  | field => field.key

/-- The option takes a value. -/
def Field.takesValue : Field → Bool
  | .outputDirectory | .outputName => true
  | _ => false

/-- The forms of an argument. -/
inductive Argument where
  /-- Two dashes alone. -/
  | divider
  /-- Two dashes and a name, with a value behind an equals sign. -/
  | long (name : String) (value : Option String)
  /-- One dash and letters. -/
  | short (letters : List Char)
  | plain (text : String)

/-- The form of an argument. -/
def Argument.ofString (text : String) : Argument :=
  match text.toList with
  | ['-', '-'] => .divider
  | '-' :: '-' :: rest =>
    match splitOnce? '=' rest with
    | some (name, value) => .long (String.ofList name) (some (String.ofList value))
    | none => .long (String.ofList rest) none
  | '-' :: c :: rest => .short (c :: rest)
  | _ => .plain text

/-- What was read so far. The option read last takes effect together with what comes after it. -/
structure Reading where
  options : Options
  given : List Field
  /-- The option read last, if it takes a value, with the value if it was read. -/
  pending : Option (Field × Option String)
  /-- The dashes that end the options were read. -/
  divided : Bool

namespace Reading

/-- Nothing read. -/
def start : Reading := ⟨.default, [], none, false⟩

/-- The option of a name, and whether it is new to the command line. -/
def give (reading : Reading) (field : Field) : Except CommandLineError Reading :=
  if reading.given.contains field then .error (.repeated field)
  else .ok { reading with given := field :: reading.given }

/-- Give an option a value. A directory has a name. -/
def giveValue (reading : Reading) (field : Field) (value : String) :
    Except CommandLineError Reading :=
  match reading.give field with
  | .error error => .error error
  | .ok reading =>
    match field with
    | .outputDirectory =>
      if value.isEmpty then .error .emptyPath
      else .ok { reading with
        options := { reading.options with outputDirectory := some (Path.ofString value) } }
    | _ => .ok { reading with options := { reading.options with outputName := some value } }

/-- Let the option read last take effect. -/
def settle (reading : Reading) : Except CommandLineError Reading :=
  match reading.pending with
  | none => .ok reading
  | some (_, none) => .error .missingValue
  | some (field, some value) => { reading with pending := none }.giveValue field value

/-- Read the name of an option, with the value attached to it. -/
def readLong (reading : Reading) (name : String) (value : Option String) :
    Except CommandLineError Reading :=
  if name = "help" then
    if value.isSome then .error .unwantedValue
    else reading.settle.bind fun _ => .error .help
  else
    match Field.all.find? (·.longName == name), value with
    | none, _ => .error .unknownArgument
    | some field, none =>
      if field.takesValue then
        reading.settle.map fun reading => { reading with pending := some (field, none) }
      else
        (reading.settle.bind (·.give field)).map fun reading =>
          { reading with options := reading.options.switch field true }
    | some field, some value =>
      if field.takesValue then reading.settle.bind (·.giveValue field value)
      else .error .unwantedValue

/-- Read an argument. -/
def read (reading : Reading) (argument : String) : Except CommandLineError Reading :=
  if reading.divided then .error .unknownArgument
  else
    match Argument.ofString argument with
    | .divider => .ok { reading with divided := true }
    | .long name value => reading.readLong name value
    | .short letters =>
      if letters.head? = some 'h' then reading.settle.bind fun _ => .error .help
      else .error .unknownArgument
    | .plain text =>
      match reading.pending with
      | some (field, none) => .ok { reading with pending := some (field, some text) }
      | _ => .error .unknownArgument

end Reading

/-- The options of a command line; the first argument that cannot be taken counts. -/
def ofArguments (arguments : List String) : Except CommandLineError Options :=
  ((arguments.foldlM Reading.read .start).bind Reading.settle).map Reading.options

end MachineCompiler.Options
