import MachineCompiler.Text.Unicode.Alphabetic
import MachineCompiler.Text.Unicode.Numeric
import MachineCompiler.Text.Unicode.WhiteSpace
import MachineCompiler.Text.Unicode.Cased
import MachineCompiler.Text.Unicode.CaseIgnorable
import MachineCompiler.Text.Unicode.GraphemeExtend
import MachineCompiler.Text.Unicode.Hidden
import MachineCompiler.Text.Unicode.DefaultIgnorable

/-!
# Classes of characters

The classes that names and texts are made of, over all of Unicode. Every class is the set of
characters whose code point is in the table of the property.
-/

namespace MachineCompiler.Text

/-- The character has the property `Alphabetic`. -/
def isLetter (c : Char) : Bool :=
  Unicode.alphabetic.holds c.toNat

/-- The character is a number of any kind: a decimal digit, a letter number or another number. -/
def isNumber (c : Char) : Bool :=
  Unicode.numeric.holds c.toNat

/-- The character is a letter or a number. -/
def isAlphanumeric (c : Char) : Bool :=
  isLetter c || isNumber c

/-- The character may stand in an identifier. -/
def isIdentifierChar (c : Char) : Bool :=
  isAlphanumeric c || c == '_'

/-- The character has the property `White_Space`. -/
def isBlank (c : Char) : Bool :=
  Unicode.whiteSpace.holds c.toNat

/-- The character has the property `Cased`. -/
def isCased (c : Char) : Bool :=
  Unicode.cased.holds c.toNat

/-- The character has the property `Case_Ignorable`. -/
def isCaseIgnorable (c : Char) : Bool :=
  Unicode.caseIgnorable.holds c.toNat

/-- The two marks that change the sound of the Japanese letter of half width before them. They have
a width of their own. -/
def isHalfwidthSoundMark (c : Char) : Bool :=
  c == '\uFF9E' || c == '\uFF9F'

/-- The character attaches to the one before it: it has the property `Grapheme_Extend`, and no width
of its own. -/
def extendsGrapheme (c : Char) : Bool :=
  Unicode.graphemeExtend.holds c.toNat && !isHalfwidthSoundMark c

/-- The character has no visible form of its own: it is a control, a format, a separator other than
the space, of private use or unassigned, or has the property `Default_Ignorable_Code_Point`. -/
def isHidden (c : Char) : Bool :=
  Unicode.hidden.holds c.toNat || Unicode.defaultIgnorable.holds c.toNat

end MachineCompiler.Text
