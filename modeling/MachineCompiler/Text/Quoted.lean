import MachineCompiler.Text.Character

/-!
# Quoted texts

A text is quoted by putting it between double quotes and escaping what would be misread there:
the quote and the backslash, the usual control characters by a letter, and every other character
that has no visible form or attaches to its neighbour by its code point.
-/

namespace MachineCompiler.Text

/-- The digits of a number in base sixteen, in lower case and without leading zeros. -/
def hexDigits (value : Nat) : List Char :=
  Nat.toDigits 16 value

/-- The quoted form of one character. -/
def quoteChar (c : Char) : List Char :=
  if c = '\x00' then ['\\', '0']
  else if c = '\t' then ['\\', 't']
  else if c = '\r' then ['\\', 'r']
  else if c = '\n' then ['\\', 'n']
  else if c = '\\' then ['\\', '\\']
  else if c = '"' then ['\\', '"']
  else if extendsGrapheme c || isHidden c then
    ['\\', 'u', '\x7b'] ++ hexDigits c.toNat ++ ['\x7d']
  else [c]

/-- A text between double quotes, with escapes. -/
def quoted (text : String) : String :=
  String.ofList ('"' :: text.toList.flatMap quoteChar ++ ['"'])

end MachineCompiler.Text
