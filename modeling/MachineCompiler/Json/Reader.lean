import MachineCompiler.Json.Basic
import MachineCompiler.Text.Reader

/-!
# Reading JSON

The reader of a text in JSON notation. A text is refused as a whole if anything in it is malformed,
and so is one that has more than a value.
-/

namespace MachineCompiler.Json

open Text

/-- Take blanks and line ends. -/
def blanks : Reader Unit := do
  let _ ← Reader.takeWhile fun c => c == ' ' || c == '\t' || c == '\n' || c == '\r'

/-- Take a number in base sixteen with four digits. -/
def fourDigits : Reader Nat := do
  let digits ← Reader.take 4
  if !digits.all isHexDigit then failure
  return valueOf 16 digits

/-- Take the character that an escape gives by its number. A character beyond the first `2 ^ 16` is
given by two numbers. -/
def numbered : Reader Char := do
  let high ← fourDigits
  if high.isValidChar then return Char.ofNat high
  if 0xDC00 ≤ high then failure
  Reader.expect ['\\', 'u']
  let low ← fourDigits
  if low < 0xDC00 || 0xE000 ≤ low then failure
  return Char.ofNat (0x10000 + (high - 0xD800) * 0x400 + (low - 0xDC00))

/-- The character of an escape of one letter. -/
def escaped? : Char → Option Char
  | 'b' => some '\x08'
  | 't' => some '\t'
  | 'n' => some '\n'
  | 'f' => some '\x0c'
  | 'r' => some '\r'
  | '"' => some '"'
  | '\\' => some '\\'
  | '/' => some '/'
  | _ => none

/-- Take a text up to the quote that closes it; `taken` are the characters before, the last one
first. -/
def characters (taken : List Char) : (fuel : Nat) → Reader String
  | 0 => failure
  | fuel + 1 => do
    match ← get with
    | [] => failure
    | '"' :: rest =>
      set rest
      return String.ofList taken.reverse
    | '\\' :: 'u' :: rest =>
      set rest
      characters ((← numbered) :: taken) fuel
    | '\\' :: c :: rest =>
      set rest
      characters ((← StateT.lift (escaped? c)) :: taken) fuel
    | c :: rest =>
      if c < ' ' || c = '\\' then failure
      set rest
      characters (c :: taken) fuel

/-- Take a text behind the quote that opens it. -/
def characterText : Reader String := do
  characters [] ((← get).length + 1)

/-- Take decimal digits, of which there is one at least. -/
def digits : Reader (List Char) := do
  let digits ← Reader.takeWhile Char.isDigit
  if digits.isEmpty then failure
  return digits

/-- Take an exponent behind its mark. -/
def exponent : Reader Int := do
  let isNegative ← Reader.accept ['-']
  if !isNegative then
    let _ ← Reader.accept ['+']
  let size : Int := valueOf 10 (← digits)
  return if isNegative then -size else size

/-- Take a number. -/
def numeral : Reader Numeral := do
  let isNegative ← Reader.accept ['-']
  let whole ← digits
  if whole.head? = some '0' && 1 < whole.length then failure
  let hasPoint ← Reader.accept ['.']
  let places ← if hasPoint then digits else pure []
  let hasExponent ← (· || ·) <$> Reader.accept ['e'] <*> Reader.accept ['E']
  let exponent ← if hasExponent then exponent else pure 0
  return ⟨isNegative, whole ++ places, places.length, exponent, !hasPoint && !hasExponent⟩

mutual

/-- Take a value that is nested at most `fuel` deep and long. -/
def value : (fuel : Nat) → Reader Json
  | 0 => failure
  | fuel + 1 => do
    match ← Reader.peek with
    | some '"' =>
      Reader.expect ['"']
      return .text (← characterText)
    | some '[' =>
      Reader.expect ['[']
      blanks
      if ← Reader.accept [']'] then return .array []
      return .array (← elements [] fuel)
    | some '\x7b' =>
      Reader.expect ['\x7b']
      blanks
      if ← Reader.accept ['\x7d'] then return .object []
      return .ofFields (← fields [] fuel)
    | _ =>
      if ← Reader.accept "null".toList then return .null
      else if ← Reader.accept "true".toList then return .boolean true
      else if ← Reader.accept "false".toList then return .boolean false
      else return .number (← numeral)

/-- Take the elements of an array and the bracket that closes it; `taken` are the elements before,
the last one first. -/
def elements (taken : List Json) : (fuel : Nat) → Reader (List Json)
  | 0 => failure
  | fuel + 1 => do
    blanks
    let taken := (← value fuel) :: taken
    blanks
    if ← Reader.accept [','] then elements taken fuel
    else
      Reader.expect [']']
      return taken.reverse

/-- Take the fields of an object and the brace that closes it; `taken` are the fields before, the
last one first. -/
def fields (taken : List (String × Json)) : (fuel : Nat) → Reader (List (String × Json))
  | 0 => failure
  | fuel + 1 => do
    blanks
    Reader.expect ['"']
    let name ← characterText
    blanks
    Reader.expect [':']
    blanks
    let taken := (name, ← value fuel) :: taken
    blanks
    if ← Reader.accept [','] then fields taken fuel
    else
      Reader.expect ['\x7d']
      return taken.reverse

end

/-- The value that a text spells. -/
def ofText? (text : String) : Option Json := do
  let characters := text.toList
  let document : Reader Json := do
    blanks
    let found ← value (2 * characters.length + 2)
    blanks
    return found
  let (found, rest) ← document.run characters
  if rest.isEmpty then return found else none

end MachineCompiler.Json
