import MachineCompiler.Text.Character

/-!
# Taking texts apart

Lines, words, fields between separators, and the places where one text occurs in another. All of
it works on lists of characters; the forms on strings convert on the way in and out.
-/

namespace MachineCompiler.Text

/-- The parts of a list between the elements that satisfy `isSeparator`; there is always one part
more than there are separators. -/
def splitWhere {α : Type} (isSeparator : α → Bool) : List α → List (List α)
  | [] => [[]]
  | a :: rest =>
    if isSeparator a then [] :: splitWhere isSeparator rest
    else
      match splitWhere isSeparator rest with
      | [] => [[a]]
      | part :: parts => (a :: part) :: parts

/-- The text before and after the first occurrence of `separator`, if there is one. -/
def splitOnce? (separator : Char) : List Char → Option (List Char × List Char)
  | [] => none
  | c :: rest =>
    if c = separator then some ([], rest)
    else (splitOnce? separator rest).map fun (before, after) => (c :: before, after)

/-- The list without the leading elements that satisfy `p`, and without the trailing ones. -/
def trimWhere (p : Char → Bool) (text : List Char) : List Char :=
  ((text.dropWhile p).reverse.dropWhile p).reverse

/-- The text without blanks at its end. -/
def trimEnd (text : String) : String :=
  String.ofList (text.toList.reverse.dropWhile isBlank).reverse

/-- The text without blanks at its ends. -/
def trim (text : String) : String :=
  String.ofList (trimWhere isBlank text.toList)

/-- The maximal runs of characters that are not blank. -/
def words (text : List Char) : List (List Char) :=
  (splitWhere isBlank text).filter (!·.isEmpty)

/-- A line without the carriage return that may end it. -/
def withoutReturn (line : List Char) : List Char :=
  if line.getLast? = some '\r' then line.dropLast else line

/-- The lines of a text. A line feed ends a line, together with a carriage return right before it;
a text that ends in a line feed has no further line. -/
def lines (text : List Char) : List (List Char) :=
  let parts := splitWhere (· == '\n') text
  let last := parts.getLast?.getD []
  parts.dropLast.map withoutReturn ++ (if last.isEmpty then [] else [last])

/-- The text before the first occurrence of `mark`, or all of it. -/
def beforeFirst (mark : List Char) : List Char → List Char
  | [] => []
  | c :: rest => if mark.isPrefixOf (c :: rest) then [] else c :: beforeFirst mark rest

/-- The text after `start`, if it begins so. -/
def after? (start text : String) : Option String :=
  if start.toList.isPrefixOf text.toList then
    some (String.ofList (text.toList.drop start.toList.length))
  else none

/-- The number of bytes of a list of characters. -/
def byteSize (text : List Char) : Nat :=
  (text.map Char.utf8Size).foldl (· + ·) 0

end MachineCompiler.Text
