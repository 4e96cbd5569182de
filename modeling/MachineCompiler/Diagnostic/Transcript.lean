import MachineCompiler.Diagnostic.Flag

/-!
# Messages to the user

What a compile says is a list of messages, in the order they were written. Where the messages go
is decided by the reader of the list: all of them to one stream, or errors and warnings apart from
the rest.
-/

namespace MachineCompiler

/-- A line for the user. -/
structure Message where
  severity : Severity
  text : String
deriving DecidableEq

/-- Messages in the order they were written. -/
abbrev Transcript := List Message

/-- The characters of the name of a phase. -/
def Message.isNameCharacter (c : Char) : Bool :=
  c.isLower || c == '-'

/-- The text is a duration, in seconds with three decimals. -/
def Message.isDuration (text : List Char) : Bool :=
  match text.dropWhile Char.isDigit with
  | ['.', a, b, c, 's'] => text.head?.any Char.isDigit && [a, b, c].all Char.isDigit
  | _ => false

/-- The name in a text that tells how long something took: a name, a colon and a duration. -/
def Message.timedName? (text : String) : Option String :=
  let name := text.toList.takeWhile Message.isNameCharacter
  match text.toList.dropWhile Message.isNameCharacter with
  | ':' :: ' ' :: duration =>
    if !name.isEmpty && Message.isDuration duration then some (String.ofList name) else none
  | _ => none

/-- The text of a message, with a word in place of the duration that an informational message may
tell. -/
def Message.untimed (message : Message) : String :=
  match message.severity, Message.timedName? message.text with
  | .info, some name => name ++ ": TIME"
  | _, _ => message.text

namespace Transcript

/-- The texts of the messages of one severity. -/
def textsOf (transcript : Transcript) (severity : Severity) : List String :=
  (transcript.filter (·.severity == severity)).map Message.text

/-- Every message on a line of its own. -/
def stream (transcript : Transcript) : String :=
  String.join (transcript.map (·.text ++ "\n"))

/-- What a terminal shows as regular output: the informational messages. -/
def regular (transcript : Transcript) : String :=
  stream (transcript.filter (·.severity == .info))

/-- What a terminal shows as error output: errors and warnings. -/
def irregular (transcript : Transcript) : String :=
  stream (transcript.filter (·.severity != .info))

end Transcript

end MachineCompiler
