import MachineCompiler.Text.Digits
import MachineCompiler.Text.Words

/-!
# Numbers and dates in TOML

What is written without quotes: truth values, integers in four bases, floating-point numbers, dates
and times. Underscores may stand between digits. A number has a type as soon as it is written like
one; that it also has a value is asked when the value is needed.
-/

namespace MachineCompiler.Toml

open Text

/-- A value of a TOML document. An integer or a floating-point number may be written in a way that
has no value. What arrays and tables hold, and which moment a date tells, is not kept. -/
inductive Value where
  | boolean (value : Bool)
  | integer (value : Option Int)
  | real (value : Option Float)
  | text (value : String)
  | moment
  | array
  | table

/-- A number without its underscores. What stands behind an underscore begins with a digit, and
what stands before one ends with a digit or is a single character, such as a sign. -/
def withoutUnderscores? (isDigit : Char → Bool) (text : List Char) : Option (List Char) :=
  let parts := splitWhere (· == '_') text
  if (parts.tail.all fun part => part.head?.any isDigit)
      && parts.dropLast.all fun part => part.length == 1 || part.getLast?.any isDigit then
    some parts.flatten
  else none

/-- A text without its sign, and whether the sign is a minus. -/
def unsigned : List Char → Bool × List Char
  | '-' :: rest => (true, rest)
  | '+' :: rest => (false, rest)
  | text => (false, text)

/-- The value of an integer with the given digits, if they are digits and 128 bits hold it. -/
def integerOf? (base : Nat) (negative : Bool) (digits : List Char) : Option Int :=
  if digits.isEmpty || !digits.all (isDigitOf base) then none
  else
    let size : Int := valueOf base digits
    let value := if negative then -size else size
    if -Int.pow 2 127 ≤ value ∧ value < Int.pow 2 128 then some value else none

/-- The base that a number is written in, with the characters behind the mark of the base. -/
def baseMark? : List Char → Option (Nat × List Char)
  | '0' :: 'x' :: rest => some (16, rest)
  | '0' :: 'o' :: rest => some (8, rest)
  | '0' :: 'b' :: rest => some (2, rest)
  | _ => none

/-- The integer that a text in one of the other bases spells. There may be no digit at all. -/
def markedInteger? (base : Nat) (text : List Char) : Option Value := do
  if text.all fun c => c == '_' || isDigitOf base c then
    return .integer (integerOf? base false (← withoutUnderscores? isHexDigit text))
  else none

/-- The integer that a text in base ten spells. Behind its last underscore anything may stand. -/
def decimalInteger? (text : List Char) : Option Value := do
  let (negative, digits) := unsigned (← withoutUnderscores? isHexDigit text)
  return .integer (integerOf? 10 negative digits)

/-- The number `mantissa * 10 ^ exponent`, where the exponent may be far out of range. -/
def realOf (mantissa : Nat) (exponent : Int) : Float :=
  let magnitude := exponent + (toString mantissa).length
  if mantissa = 0 ∨ magnitude < -400 then 0
  else if 400 < magnitude then 1.0 / 0.0
  else if exponent < 0 then Float.ofScientific mantissa true exponent.natAbs
  else Float.ofScientific mantissa false exponent.toNat

/-- The exponent that a text spells. -/
def exponent? (text : List Char) : Option Int :=
  let (negative, digits) := unsigned text
  if isDigits digits then some (if negative then -(valueOf 10 digits : Int) else valueOf 10 digits)
  else none

/-- The floating-point number that digits with a point or an exponent spell. -/
def unsignedReal? (text : List Char) : Option Float := do
  let (mantissa, exponent) ←
    match splitOnce? 'e' (text.map Char.toLower) with
    | some (mantissa, power) => (exponent? power).map fun exponent => (mantissa, exponent)
    | none => some (text, 0)
  match splitOnce? '.' mantissa with
  | none =>
    if isDigits mantissa then return realOf (valueOf 10 mantissa) exponent else none
  | some (whole, places) =>
    if isDigits whole && isDigits places then
      return realOf (valueOf 10 (whole ++ places)) (exponent - places.length)
    else none

/-- The floating-point number that a text with digits spells. Infinity is no value of it. -/
def real? (text : List Char) : Option Value := do
  let (negative, digits) := unsigned (← withoutUnderscores? Char.isDigit text)
  let size ← unsignedReal? digits
  return .real (if size.isInf then none else some (if negative then -size else size))

/-- The floating-point number of a text that is a word. -/
def wordReal? (text : List Char) : Option Value :=
  let (negative, word) := unsigned text
  let value? : Option Float :=
    if word = "inf".toList then some (1.0 / 0.0)
    else if word = "nan".toList then some (0.0 / 0.0)
    else none
  value?.map fun value => .real (some (if negative then -value else value))

/-- The number begins with a zero that it does not need. -/
def hasNeedlessZero : List Char → Bool
  | '0' :: c :: _ => c.isDigit || c == '_'
  | _ => false

/-- The number that a text spells in base ten. A point or an exponent makes it a floating-point
number. -/
def decimal? (text : List Char) : Option Value :=
  let (_, digits) := unsigned text
  let rest := digits.dropWhile Char.isDigit
  if digits.isEmpty || hasNeedlessZero digits then none
  else if rest.any fun c => c == '.' || c.toLower == 'e' then real? text
  else if rest.isEmpty || rest.head? = some '_' then decimalInteger? text
  else none

/-- The number that exactly `count` digits spell, if it is from `low` to `high`. -/
def isField (count low high : Nat) (text : List Char) : Bool :=
  text.length == count && text.all Char.isDigit
    && low ≤ valueOf 10 text && valueOf 10 text ≤ high

/-- The number of days of a month. -/
def daysOf (year month : Nat) : Nat :=
  if month = 2 then
    if year % 4 = 0 ∧ (year % 100 ≠ 0 ∨ year % 400 = 0) then 29 else 28
  else if month ∈ [4, 6, 9, 11] then 30 else 31

/-- The text spells a date. -/
def isDate (text : List Char) : Bool :=
  match splitWhere (· == '-') text with
  | [year, month, day] =>
    isField 4 0 9999 year && isField 2 1 12 month
      && isField 2 1 (daysOf (valueOf 10 year) (valueOf 10 month)) day
  | _ => false

/-- The text spells a time of day. Seconds may be left out. -/
def isTime (text : List Char) : Bool :=
  match splitWhere (· == ':') text with
  | [hours, minutes] => isField 2 0 23 hours && isField 2 0 59 minutes
  | [hours, minutes, seconds] =>
    let whole := seconds.takeWhile (· != '.')
    let places := seconds.dropWhile (· != '.')
    isField 2 0 23 hours && isField 2 0 59 minutes && isField 2 0 60 whole
      && (places.isEmpty || (1 < places.length && places.tail.all Char.isDigit))
  | _ => false

/-- The text spells the hours and minutes of an offset, which is a day at most. -/
def isOffset (text : List Char) : Bool :=
  match splitWhere (· == ':') text with
  | [hours, minutes] =>
    isField 2 0 24 hours && isField 2 0 99 minutes
      && valueOf 10 hours * 60 + valueOf 10 minutes ≤ 24 * 60
  | _ => false

/-- The text spells a time of day, with an offset if there is one. -/
def isOffsetTime (text : List Char) : Bool :=
  match text.reverse with
  | 'Z' :: rest | 'z' :: rest => isTime rest.reverse
  | _ =>
    let time := text.takeWhile fun c => c != '+' && c != '-'
    match text.dropWhile fun c => c != '+' && c != '-' with
    | [] => isTime time
    | _ :: offset => isTime time && isOffset offset

/-- The text spells a date, a time, or both. -/
def isMoment (text : List Char) : Bool :=
  let rest := text.drop 10
  isTime text
    || (isDate (text.take 10)
      && match rest with
        | [] => true
        | c :: time => (c == 'T' || c == 't' || c == ' ') && isOffsetTime time)

/-- The text is written like a date or a time: what stands behind its first digits says so. -/
def isLikeMoment (text : List Char) : Bool :=
  match text.dropWhile Char.isDigit with
  | c :: _ => c == '-' || c == ':'
  | [] => false

/-- The value that a text without quotes spells. -/
def scalar? (text : List Char) : Option Value :=
  if text = "true".toList then some (.boolean true)
  else if text = "false".toList then some (.boolean false)
  else if text.head?.any Char.isDigit && isLikeMoment text then
    if isMoment text then some .moment else none
  else
    match baseMark? text with
    | some (base, digits) => markedInteger? base digits
    | none => (wordReal? text).or (decimal? text)

end MachineCompiler.Toml
