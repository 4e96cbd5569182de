import MachineCompiler.Text.Digits
import MachineCompiler.Toml.Reader

/-!
# Texts in TOML

A text stands between quotes: between double quotes with escapes, between single quotes without
them, and between three quotes of either kind over several lines. A line end right after the three
opening quotes does not count, the others are part of the text as they are, and a backslash at the
end of a line takes the blanks and line ends behind it away.
-/

namespace MachineCompiler.Toml

/-- The number of digits behind an escape that gives a code point. -/
def escapeLength? : Char → Option Nat
  | 'x' => some 2
  | 'u' => some 4
  | 'U' => some 8
  | _ => none

/-- The character of an escape of one letter. -/
def escaped? : Char → Option Char
  | 'b' => some '\x08'
  | 't' => some '\t'
  | 'n' => some '\n'
  | 'f' => some '\x0c'
  | 'r' => some '\r'
  | 'e' => some '\x1b'
  | '"' => some '"'
  | '\\' => some '\\'
  | _ => none

/-- Take an escape after its backslash. -/
def escape : Reader Char := do
  match ← get with
  | [] => failure
  | c :: rest =>
    match escapeLength? c with
    | some length =>
      set rest
      StateT.lift (Text.codePoint? (← Reader.take length))
    | none =>
      set rest
      StateT.lift (escaped? c)

/-- Take a text up to the double quote that closes it, which is on the same line. -/
def basicText : (fuel : Nat) → Reader (List Char)
  | 0 => failure
  | fuel + 1 => do
    match ← get with
    | [] => failure
    | '"' :: rest =>
      set rest
      return []
    | '\\' :: rest =>
      set rest
      let c ← escape
      return c :: (← basicText fuel)
    | c :: rest =>
      if !isPrintable c then failure
      set rest
      return c :: (← basicText fuel)

/-- Take a text up to the single quote that closes it, which is on the same line. -/
def literalText : Reader (List Char) := do
  let text ← Reader.takeWhile fun c => isPrintable c && c != '\x27'
  Reader.expect ['\x27']
  return text

/-- Take three closing quotes if they come next. The text may end with one or two quotes of its
own, which stand before them. -/
def closing (quote : Char) : Reader (Option (List Char)) := do
  let count := (← get).takeWhile (· == quote) |>.length
  if count < 3 then return none
  let own := min (count - 3) 2
  set ((← get).drop (own + 3))
  return some (List.replicate own quote)

/-- The rest of a line is blank. -/
def isBlankToLineEnd (rest : List Char) : Bool :=
  match rest.dropWhile isBlank with
  | [] => false
  | after => atLineEnd after

/-- Take blanks and line ends, of at most `fuel` lines. -/
def blankLines : (fuel : Nat) → Reader Unit
  | 0 => return ()
  | fuel + 1 => do
    blanks
    if ← lineEnd then blankLines fuel

/-- Take a text up to the three quotes that close it. Escapes count between double quotes. -/
def linesOfText (quote : Char) : (fuel : Nat) → Reader (List Char)
  | 0 => failure
  | fuel + 1 => do
    match ← closing quote with
    | some text => return text
    | none =>
      match ← get with
      | [] => failure
      | '\n' :: rest =>
        set rest
        return '\n' :: (← linesOfText quote fuel)
      | '\r' :: '\n' :: rest =>
        set rest
        return '\r' :: '\n' :: (← linesOfText quote fuel)
      | c :: rest =>
        if c = '\\' ∧ quote = '"' then
          set rest
          if isBlankToLineEnd rest then
            blankLines fuel
            linesOfText quote fuel
          else
            let c ← escape
            return c :: (← linesOfText quote fuel)
        else
          if !isPrintable c then failure
          set rest
          return c :: (← linesOfText quote fuel)

/-- Take a text that begins with a quote. Only where a value is expected may it have three. -/
def quotedText (mayHaveLines : Bool) (quote : Char) : Reader String := do
  let fuel := (← get).length + 1
  if mayHaveLines && (← Reader.accept [quote, quote, quote]) then
    let _ ← lineEnd
    return String.ofList (← linesOfText quote fuel)
  Reader.expect [quote]
  if quote = '"' then return String.ofList (← basicText fuel)
  else return String.ofList (← literalText)

end MachineCompiler.Toml
