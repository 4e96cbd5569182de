import MachineCompiler.FileSystem.Basic
import MachineCompiler.Options.Field
import MachineCompiler.Toml.Document

/-!
# Options in a file

A file sets options at the top level of a TOML document. The settings are looked at in the order of
their names, and the first that is refused is reported with the place where it is written.
-/

namespace MachineCompiler.Options

/-- Why a text sets no options: it is no document, or a setting is refused. -/
inductive TextError where
  | malformed
  | refused (fault : Fault) (place : Toml.ByteRange)

/-- A value of a document as a value for an option. A date is told as a table of its parts. -/
def Value.ofToml : Toml.Value → Value
  | .boolean value => .boolean value
  | .integer value => .integer value
  | .real value => .real value
  | .text value => .text value
  | .array => .list
  | .moment | .table => .table

/-- The place of a fault: an unknown name is wrong itself, and otherwise the value is. -/
def Fault.place (entry : Toml.Entry) : Fault → Toml.ByteRange
  | .unknownField _ => entry.keyRange
  | .wrongType _ _ => entry.valueRange

/-- The text of a refusal of an entry. -/
def Fault.textMessage (fault : Fault) : String :=
  fault.message .positional

/-- Set an option as an entry of a document says. -/
def setEntry (options : Options) (entry : Toml.Entry) : Except TextError Options :=
  (options.set entry.key (.ofToml entry.value)).mapError fun fault =>
    .refused fault (fault.place entry)

/-- The options that a text sets. -/
def ofText (text : String) : Except TextError Options :=
  match Toml.document? text with
  | none => .error .malformed
  | some entries =>
    (entries.mergeSort fun a b => a.key ≤ b.key).foldlM setEntry .default

/-- Why a file sets no options. -/
inductive LoadError where
  | unreadable (path : Path) (reason : FileError)
  | text (error : TextError)

/-- The options that a file sets. -/
def ofFile (files : FileSystem) (path : Path) : Except LoadError Options :=
  match files.readText path with
  | .error reason => .error (.unreadable path reason)
  | .ok text => (ofText text).mapError .text

end MachineCompiler.Options
