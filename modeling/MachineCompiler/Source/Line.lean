import MachineCompiler.Source.Parser

/-!
# Lines of source text

A notation for programs with one declaration on a line:

    include "other.p"
    type Pair
    event eGo
    machine Main            also `model machine` and `spec machine`
    state Main.Init         nested: `state Main.Group.Init`
    var Main.count
    fun Main.step uses count
    fun helper              a function of the whole program

What follows two slashes on a line is a comment, and lines without words are skipped. A line is
first read by itself; whether the machine that it names exists is looked up afterwards. A
declaration points at the word that names it, a use at the word that is used.
-/

namespace MachineCompiler.Source

open Text

/-- What a line says, read by itself. Where a declaration is named by a path, the path is kept. -/
inductive Line where
  | include (path : String)
  | typeDef (name : String)
  | event (name : String)
  | machine (role : MachineRole) (name : String)
  | state (path : String) (machine : String) (groups : List String)
  | variable (path : String) (machine : String) (name : String)
  | function (path : String) (machine : Option String) (name : String) (used : Option String)
deriving DecidableEq

/-- What is wrong with a line. -/
inductive LineError where
  | unexpected
  | unknownRole
  | badBody
  | noOwner (path : String)
  | unknownMachine (name : String)
deriving DecidableEq

/-- The text of an error, where `code` is the line without its comment. -/
def LineError.message (code : String) : LineError → String
  | .unexpected => "unexpected '" ++ trim code ++ "'"
  | .unknownRole => "unknown machine kind in '" ++ trim code ++ "'"
  | .badBody => "bad function body '" ++ trim code ++ "'"
  | .noOwner path => "'" ++ path ++ "' has no owner"
  | .unknownMachine name => "unknown machine '" ++ name ++ "'"

namespace Line

/-- A path without the quotes around it. -/
def unquoted (path : String) : String :=
  String.ofList (trimWhere (· == '"') path.toList)

/-- The machine and the rest of a path, which are on the two sides of its first dot. -/
def ownerAndRest? (path : String) : Option (String × String) :=
  (splitOnce? '.' path.toList).map fun (owner, rest) => (String.ofList owner, String.ofList rest)

/-- The names between the dots of a path. -/
def groups (path : String) : List String :=
  (splitWhere (· == '.') path.toList).map String.ofList

/-- The role that a word before `machine` gives to a machine. -/
def role? : String → Option MachineRole
  | "model" => some .model
  | "spec" => some .spec
  | _ => none

/-- The function that a path names. -/
def functionAt (path : String) (used : Option String) : Line :=
  match ownerAndRest? path with
  | some (owner, name) => .function path (some owner) name used
  | none => .function path none path used

/-- Read the words of a line. -/
def ofWords : List String → Except LineError Line
  | ["include", path] => .ok (.include (unquoted path))
  | ["type", name] => .ok (.typeDef name)
  | ["event", name] => .ok (.event name)
  | ["machine", name] => .ok (.machine .real name)
  | [word, "machine", name] =>
    match role? word with
    | some role => .ok (.machine role name)
    | none => .error .unknownRole
  | ["state", path] =>
    match ownerAndRest? path with
    | some (owner, rest) => .ok (.state path owner (groups rest))
    | none => .error (.noOwner path)
  | ["var", path] =>
    match ownerAndRest? path with
    | some (owner, rest) => .ok (.variable path owner rest)
    | none => .error (.noOwner path)
  | ["fun", path] => .ok (functionAt path none)
  | ["fun", path, "uses", used] => .ok (functionAt path (some used))
  | "fun" :: _ :: _ => .error .badBody
  | _ => .error .unexpected

end Line

/-- A line of a file: its number, its text, and the text before its comment. -/
structure NumberedLine where
  file : ProgramName
  number : Nat
  text : List Char

namespace NumberedLine

/-- The line without its comment. -/
def code (line : NumberedLine) : List Char :=
  beforeFirst ['/', '/'] line.text

/-- The words of the line. -/
def words (line : NumberedLine) : List String :=
  (Text.words line.code).map String.ofList

/-- The number of bytes before the first occurrence of `word` that no identifier character touches.
Occurrences are looked for from left to right and do not overlap: `skip` characters belong to the
occurrence found last. -/
def wholeWord? (word : List Char) (before : Option Char) (offset skip : Nat) :
    List Char → Option Nat
  | [] => none
  | c :: rest =>
    match skip with
    | skip + 1 => wholeWord? word (some c) (offset + c.utf8Size) skip rest
    | 0 =>
      if word.isPrefixOf (c :: rest) then
        if !before.any isIdentifierChar
            && !((c :: rest).drop word.length).head?.any isIdentifierChar then
          some offset
        else wholeWord? word (some c) (offset + c.utf8Size) (word.length - 1) rest
      else wholeWord? word (some c) (offset + c.utf8Size) 0 rest

/-- The region of a word of the line, counted in bytes. -/
def spanOf (line : NumberedLine) (word : String) : Span :=
  let start := (wholeWord? word.toList none 0 0 line.text).getD 0 + 1
  ⟨line.number, start, line.number, start + byteSize word.toList, some line.file⟩

/-- An error at the start of the line. -/
def error (line : NumberedLine) (message : String) : Flag :=
  ((Flag.error message .plain).located (.point (some line.file) line.number 1)).inProgram
    (some line.file)

/-- Declare a top-level name. A repetition is reported at the word. -/
def declare (line : NumberedLine) (category : Category) (name : String)
    (names : Registry) : List Flag × Registry :=
  let (names, isNew) := names.insert category name
  if isNew then ([], names)
  else
    ([(line.error ("'" ++ name ++ "' is declared more than once")).located (line.spanOf name)],
      names)

/-- The body of a function: a use of a variable, or nothing to do. -/
def body (line : NumberedLine) : Option String → Term
  | some used => .app "Use" [.text used] (line.spanOf used)
  | none => .apply "Skip" []

/-- What a line adds: flags, includes and declarations. -/
structure Addition where
  flags : List Flag
  includes : List String
  declarations : Declarations

/-- The machine of a name, which has to be declared by now. -/
def machine (program : Program) (name : String) : Except LineError DeclarationId :=
  match program.machineNamed? name with
  | some (id, _) => .ok id
  | none => .error (.unknownMachine name)

/-- The machine that a function names as its owner, if it names one. -/
def functionOwner (program : Program) : Option String → Except LineError (Option DeclarationId)
  | some name => (machine program name).map some
  | none => .ok none

/-- Add what a line says to the declarations before it. -/
def add (line : NumberedLine) (declarations : Declarations) :
    Line → Except LineError Addition
  | .include path => .ok ⟨[], [path], declarations⟩
  | .typeDef name =>
    let (flags, names) := line.declare .typeDef name declarations.names
    .ok ⟨flags, [],
      ⟨names, declarations.program.addTypeDef ⟨name, .symbol "ANY", line.spanOf name⟩⟩⟩
  | .event name =>
    let (flags, names) := line.declare .event name declarations.names
    .ok ⟨flags, [],
      ⟨names, declarations.program.addEvent ⟨name, none, none, line.spanOf name⟩⟩⟩
  | .machine role name =>
    let (flags, names) := line.declare .machine name declarations.names
    .ok ⟨flags, [],
      ⟨names, declarations.program.addMachine ⟨name, role, none, line.spanOf name⟩⟩⟩
  | .state path owner groups =>
    (machine declarations.program owner).map fun owner =>
      ⟨[], [], { declarations with
        program := declarations.program.addState
          ⟨groups, owner, none, none, line.spanOf path⟩ }⟩
  | .variable path owner name =>
    (machine declarations.program owner).map fun owner =>
      ⟨[], [], { declarations with
        program := declarations.program.addVariable
          ⟨name, owner, .symbol "INT", line.spanOf path⟩ }⟩
  | .function path owner name used =>
    (functionOwner declarations.program owner).map fun owner =>
      ⟨[], [], { declarations with
        program := declarations.program.addFunction
          ⟨name, owner, [], none, line.body used, line.spanOf path⟩ }⟩

/-- Read a line and add what it says. -/
def parse (line : NumberedLine) (declarations : Declarations) : Except LineError Addition :=
  if line.words.isEmpty then .ok ⟨[], [], declarations⟩
  else (Line.ofWords line.words).bind (line.add declarations)

end NumberedLine

/-- Parse the lines of a file. The first bad line ends the file: its error is reported, the
includes before it are forgotten, and what was declared before it stays. -/
def parseLines (declarations : Declarations) (flags : List Flag) (includes : List String) :
    List NumberedLine → ParseOutput × Declarations
  | [] => (⟨true, flags, includes⟩, declarations)
  | line :: rest =>
    match line.parse declarations with
    | .error error =>
      let flag := line.error (error.message (String.ofList line.code))
      (⟨false, flags ++ [flag], []⟩, declarations)
    | .ok addition =>
      parseLines addition.declarations (flags ++ addition.flags) (includes ++ addition.includes)
        rest

/-- The numbered lines of a file. -/
def numberedLines (file : ProgramName) (text : String) : List NumberedLine :=
  (Text.lines text.toList).zipIdx.map fun (line, index) => ⟨file, index + 1, line⟩

/-- The parser of the line notation. Its state lists the files parsed so far. -/
def lineParser : Parser (List ProgramName) where
  parseFile file text declarations parsed :=
    let (output, declarations) := parseLines declarations [] [] (numberedLines file text)
    (output, declarations, parsed ++ [file])

end MachineCompiler.Source
