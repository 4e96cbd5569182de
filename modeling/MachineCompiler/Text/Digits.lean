/-!
# Digits

Digits in bases up to sixteen. Letters of either case are the digits from ten on.
-/

namespace MachineCompiler.Text

/-- A digit in base sixteen. -/
def isHexDigit (c : Char) : Bool :=
  c.isDigit || ('a' ≤ c && c ≤ 'f') || ('A' ≤ c && c ≤ 'F')

/-- The value of a digit. -/
def digitValue (c : Char) : Nat :=
  if c.isDigit then c.toNat - '0'.toNat else c.toLower.toNat - 'a'.toNat + 10

/-- A digit in a base up to sixteen. -/
def isDigitOf (base : Nat) (c : Char) : Bool :=
  isHexDigit c && digitValue c < base

/-- The value of digits in a base up to sixteen. -/
def valueOf (base : Nat) (digits : List Char) : Nat :=
  digits.foldl (fun value c => value * base + digitValue c) 0

/-- The text is made of decimal digits, of which there is one at least. -/
def isDigits (text : List Char) : Bool :=
  !text.isEmpty && text.all Char.isDigit

/-- The character of a code point in base sixteen. -/
def codePoint? (digits : List Char) : Option Char :=
  if digits.all isHexDigit && (valueOf 16 digits).isValidChar then
    some (Char.ofNat (valueOf 16 digits))
  else none

end MachineCompiler.Text
