import MachineCompiler.Text.Reader

/-!
# Reading TOML

The readers of blanks, line ends and comments, from which all others are made.
-/

namespace MachineCompiler.Toml

/-- A character that separates tokens on a line. -/
def isBlank (c : Char) : Bool :=
  c == ' ' || c == '\t'

/-- A character that may stand in a comment and between single quotes: a tab or no control
character. -/
def isPrintable (c : Char) : Bool :=
  c == '\t' || (' ' ≤ c && c != '\x7f')

/-- Take blanks. -/
def blanks : Reader Unit := do
  let _ ← Reader.takeWhile isBlank

/-- The rest of the text begins with the end of a line, or there is none. -/
def atLineEnd : List Char → Bool
  | [] => true
  | '\n' :: _ => true
  | '\r' :: '\n' :: _ => true
  | _ => false

/-- Take the end of a line if it comes next, and tell whether it did. -/
def lineEnd : Reader Bool := do
  if ← Reader.accept ['\n'] then return true
  else Reader.accept ['\r', '\n']

/-- Take a comment if one comes next. It goes up to the end of its line. -/
def comment : Reader Unit := do
  if ← Reader.accept ['#'] then
    let _ ← Reader.takeWhile isPrintable
    if !atLineEnd (← get) then failure

/-- Take blanks, comments and line ends, of at most `fuel` lines. -/
def space : (fuel : Nat) → Reader Unit
  | 0 => return ()
  | fuel + 1 => do
    blanks
    comment
    if ← lineEnd then space fuel

/-- Take blanks, comments and line ends. -/
def anySpace : Reader Unit := do
  space ((← get).length + 1)

end MachineCompiler.Toml
