import MachineCompiler.Text.Character
import MachineCompiler.Text.Unicode.LowercaseRuns

/-!
# Lowercase texts

The full lowercase form of a text. A character is lowered by itself, with one exception: a capital
sigma that ends a word becomes the final sigma. It ends a word when, case-ignorable characters
aside, a cased character stands before it and none after it.
-/

namespace MachineCompiler.Text

/-- The lowercase form of one character. Only U+0130 has a form of two characters. -/
def lowerChar (c : Char) : List Char :=
  if c = '\u0130' then ['i', '\u0307']
  else [Char.ofNat (Unicode.lowerBy Unicode.lowercaseRuns c.toNat)]

/-- The first character that is not case-ignorable is cased. -/
def meetsCased (text : List Char) : Bool :=
  match text.dropWhile isCaseIgnorable with
  | [] => false
  | c :: _ => isCased c

/-- Lower `text`, where `before` is what stands before it, in reverse. -/
def lowerAfter (before : List Char) : List Char → List Char
  | [] => []
  | c :: rest =>
    let lowered :=
      if c = 'Σ' then if meetsCased before && !meetsCased rest then ['ς'] else ['σ']
      else lowerChar c
    lowered ++ lowerAfter (c :: before) rest

/-- The lowercase form of a text. -/
def lowercase (text : String) : String :=
  String.ofList (lowerAfter [] text.toList)

end MachineCompiler.Text
