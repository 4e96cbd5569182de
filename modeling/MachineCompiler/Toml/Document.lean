import MachineCompiler.Toml.Quotes
import MachineCompiler.Toml.Scalar

/-!
# TOML documents

A document is a list of lines: settings of keys to values, and headings under which the settings
that follow belong to a table. It is read for its top level: every key there, with its value and
the bytes where both are written. Keys inside of tables are read and not kept.
-/

namespace MachineCompiler.Toml

/-- Consecutive bytes of a text, from the first to the one after the last. -/
structure ByteRange where
  start : Nat
  stop : Nat
deriving DecidableEq, Repr

/-- A key at the top level of a document. -/
structure Entry where
  key : String
  keyRange : ByteRange
  value : Value
  valueRange : ByteRange

/-- What one line says. A heading may be one of an array of tables. -/
inductive Line where
  | setting (key : String) (keyRange : ByteRange) (isDotted : Bool) (value : Value)
    (valueRange : ByteRange)
  | heading (key : String) (keyRange : ByteRange) (isDotted isArray : Bool) (range : ByteRange)

/-- Read something, and tell where it is written in a text of `total` bytes. -/
def ranged {α : Type} (total : Nat) (reader : Reader α) : Reader (α × ByteRange) := do
  let start := total - (← Reader.remaining)
  let value ← reader
  return (value, ⟨start, total - (← Reader.remaining)⟩)

/-- A character of a key without quotes. -/
def isKeyChar (c : Char) : Bool :=
  c.isAlphanum || c == '_' || c == '-'

/-- Take one part of a key. -/
def simpleKey : Reader String := do
  match ← Reader.peek with
  | some '"' => quotedText false '"'
  | some '\x27' => quotedText false '\x27'
  | _ =>
    let key ← Reader.takeWhile isKeyChar
    if key.isEmpty then failure
    return String.ofList key

/-- Take the further parts of a key, at most `fuel` of them, and tell whether there were any. -/
def furtherKeys : (fuel : Nat) → Reader Bool
  | 0 => failure
  | fuel + 1 => do
    blanks
    if ← Reader.accept ['.'] then
      blanks
      let _ ← simpleKey
      let _ ← furtherKeys fuel
      return true
    else return false

/-- Take a key: its first part with the place where it is written, and whether more parts follow. -/
def key (total : Nat) : Reader (String × ByteRange × Bool) := do
  let (first, range) ← ranged total simpleKey
  let isDotted ← furtherKeys ((← get).length + 1)
  return (first, range, isDotted)

/-- A character that ends a value without quotes. -/
def endsScalar (c : Char) : Bool :=
  isBlank c || c == '\n' || c == '\r' || c == ',' || c == '=' || c == '#'
    || c == '[' || c == ']' || c == '\x7b' || c == '\x7d'

/-- Take a value without quotes. A time may stand behind a date and one blank. -/
def scalar : Reader Value := do
  let text ← Reader.takeWhile (!endsScalar ·)
  match isDate text, ← get with
  | true, ' ' :: c :: _ =>
    if c.isDigit then
      Reader.expect [' ']
      let time ← Reader.takeWhile (!endsScalar ·)
      StateT.lift (scalar? (text ++ ' ' :: time))
    else StateT.lift (scalar? text)
  | _, _ => StateT.lift (scalar? text)

mutual

/-- Take a value that is nested at most `fuel` deep and long. -/
def value : (fuel : Nat) → Reader Value
  | 0 => failure
  | fuel + 1 => do
    match ← Reader.peek with
    | some '"' => return .text (← quotedText true '"')
    | some '\x27' => return .text (← quotedText true '\x27')
    | some '[' =>
      Reader.expect ['[']
      elements fuel
      return .array
    | some '\x7b' =>
      Reader.expect ['\x7b']
      fields fuel
      return .table
    | _ => scalar

/-- Take the elements of an array and the bracket that closes it. -/
def elements : (fuel : Nat) → Reader Unit
  | 0 => failure
  | fuel + 1 => do
    anySpace
    if ← Reader.accept [']'] then return
    let _ ← value fuel
    anySpace
    if ← Reader.accept [','] then elements fuel
    else Reader.expect [']']

/-- Take the settings of a table between braces and the brace that closes it. -/
def fields : (fuel : Nat) → Reader Unit
  | 0 => failure
  | fuel + 1 => do
    anySpace
    if ← Reader.accept ['\x7d'] then return
    let _ ← key 0
    anySpace
    Reader.expect ['=']
    anySpace
    let _ ← value fuel
    anySpace
    if ← Reader.accept [','] then fields fuel
    else Reader.expect ['\x7d']

end

/-- Take a value. -/
def anyValue : Reader Value := do
  value (2 * (← get).length + 2)

/-- Take a setting. -/
def setting (total : Nat) : Reader Line := do
  let (name, keyRange, isDotted) ← key total
  Reader.expect ['=']
  blanks
  let (value, valueRange) ← ranged total anyValue
  return .setting name keyRange isDotted value valueRange

/-- Take a heading. -/
def heading (total : Nat) : Reader Line := do
  let heading : Reader (String × ByteRange × Bool × Bool) := do
    Reader.expect ['[']
    let isArray ← Reader.accept ['[']
    blanks
    let (name, keyRange, isDotted) ← key total
    Reader.expect (if isArray then [']', ']'] else [']'])
    return (name, keyRange, isDotted, isArray)
  let ((name, keyRange, isDotted, isArray), range) ← ranged total heading
  return .heading name keyRange isDotted isArray range

/-- Take the lines of a document, at most `fuel` of them. -/
def lines (total : Nat) : (fuel : Nat) → Reader (List Line)
  | 0 => failure
  | fuel + 1 => do
    anySpace
    match ← Reader.peek with
    | none => return []
    | some c =>
      let line ← if c = '[' then heading total else setting total
      blanks
      comment
      if !atLineEnd (← get) then failure
      return line :: (← lines total fuel)

/-- What becomes of a key at the top level that is met again. Only a table may be. -/
inductive Again where
  /-- The document is refused. -/
  | refuse
  /-- The key stays as it is. -/
  | keep
  /-- The key is written at the later place. -/
  | replace
deriving DecidableEq, Repr

/-- Put a key at the top level. -/
def enter (entries : List Entry) (entry : Entry) (again : Again) : Option (List Entry) :=
  match entries.find? (·.key == entry.key) with
  | none => some (entries ++ [entry])
  | some held =>
    match held.value, again with
    | .table, .keep | .array, .keep => some entries
    | .table, .replace => some (entries.filter (·.key != entry.key) ++ [entry])
    | _, _ => none

/-- The top level after one more line; the flag tells whether a heading was met. A table that is
only on the way to what a line is about is written where its key is, until it has a heading of its
own. -/
def enterLine (state : List Entry × Bool) (line : Line) : Option (List Entry × Bool) :=
  match line with
  | .setting key keyRange isDotted value valueRange =>
    if state.2 then some state
    else if isDotted then
      (enter state.1 ⟨key, keyRange, .table, keyRange⟩ .keep).map fun entries => (entries, false)
    else
      (enter state.1 ⟨key, keyRange, value, valueRange⟩ .refuse).map fun entries => (entries, false)
  | .heading key keyRange isDotted isArray range =>
    let entry : Entry :=
      if isDotted then ⟨key, keyRange, .table, keyRange⟩
      else ⟨key, keyRange, if isArray then .array else .table, range⟩
    let again := if isDotted || isArray then Again.keep else .replace
    (enter state.1 entry again).map fun entries => (entries, true)

/-- The top level of a document. A byte order mark may stand before it. -/
def document? (text : String) : Option (List Entry) := do
  let characters := text.toList
  let body := if characters.head? = some '\uFEFF' then characters.tail else characters
  let (found, _) ← (lines (Text.byteSize characters) (body.length + 1)).run body
  let (entries, _) ← found.foldlM enterLine ([], false)
  return entries

end MachineCompiler.Toml
