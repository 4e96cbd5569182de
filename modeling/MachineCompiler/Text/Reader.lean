import MachineCompiler.Text.Words

/-!
# Readers

A reader takes characters off the front of a text and yields what they say, or refuses the text.
-/

namespace MachineCompiler

/-- A reader of characters. -/
abbrev Reader : Type → Type := StateT (List Char) Option

namespace Reader

/-- The next character, which is not taken. -/
def peek : Reader (Option Char) :=
  return (← get).head?

/-- Take the given characters if they come next, and tell whether they did. -/
def accept (text : List Char) : Reader Bool := do
  let rest ← get
  if text.isPrefixOf rest then
    set (rest.drop text.length)
    return true
  else return false

/-- Take the given characters, which have to come next. -/
def expect (text : List Char) : Reader Unit := do
  if !(← accept text) then failure

/-- Take characters as long as they satisfy `p`. -/
def takeWhile (p : Char → Bool) : Reader (List Char) := do
  let rest ← get
  set (rest.dropWhile p)
  return rest.takeWhile p

/-- Take a number of characters. -/
def take (count : Nat) : Reader (List Char) := do
  let rest ← get
  if rest.length < count then failure
  set (rest.drop count)
  return rest.take count

/-- The number of bytes that are left. -/
def remaining : Reader Nat :=
  return Text.byteSize (← get)

end Reader

end MachineCompiler
