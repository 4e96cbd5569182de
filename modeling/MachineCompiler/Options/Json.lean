import MachineCompiler.Json.Basic
import MachineCompiler.Options.Field

/-!
# Options in JSON

An object sets options by name, and an array sets them in the order in which they are told. The
fields of an object are looked at in the order of their names; the first value that is refused is
reported.
-/

namespace MachineCompiler.Options

/-- A JSON value as a value for an option. -/
def Value.ofJson : Json → Value
  | .null => .absent
  | .boolean value => .boolean value
  | .number numeral =>
    match numeral.integer? with
    | some value => .integer value
    | none => .real numeral.real
  | .text value => .text value
  | .array _ => .list
  | .object _ => .table

/-- Why a JSON value sets no options. -/
inductive JsonError where
  | refused (fault : Fault)
  | wrongType (value : Value)
  | tooMany (count : Nat)

/-- The text of an error. -/
def JsonError.message : JsonError → String
  | .refused fault => fault.message .brief
  | .wrongType value => value.wrongType .brief "struct CompileOptions"
  | .tooMany count =>
    "invalid length " ++ toString count ++ ", expected fewer elements in array"

/-- The options that a JSON value sets. -/
def ofJson : Json → Except JsonError Options
  | .object fields =>
    (ofSettings (fields.map fun (key, value) => (key, .ofJson value))).mapError .refused
  | .array elements =>
    match (Field.all.zip elements).foldlM (fun options (field, value) =>
      options.assign field (.ofJson value)) default with
    | .error fault => .error (.refused fault)
    | .ok options =>
      if Field.all.length < elements.length then .error (.tooMany elements.length)
      else .ok options
  | json => .error (.wrongType (.ofJson json))

end MachineCompiler.Options
