import MachineCompiler.Text.Digits

/-!
# JSON values

Values as a text in JSON notation spells them. Numbers are kept as they are written, because the
writing tells an integer from a floating-point number: a point or an exponent makes the difference,
and so does a size beyond 64 bits.
-/

namespace MachineCompiler

/-- A number as it is written. -/
structure Numeral where
  isNegative : Bool
  /-- The digits before the point and behind it. -/
  digits : List Char
  /-- How many digits stand behind the point. -/
  places : Nat
  exponent : Int
  /-- The number has neither a point nor an exponent. -/
  isWhole : Bool

namespace Numeral

/-- The value of an integer of 64 bits with or without a sign. There is no negative zero. -/
def integer? (numeral : Numeral) : Option Int :=
  let size := Text.valueOf 10 numeral.digits
  if !numeral.isWhole then none
  else if numeral.isNegative then if 0 < size ∧ size ≤ Nat.pow 2 63 then some (-size) else none
  else if size < Nat.pow 2 64 then some size else none

/-- The number that leading digits spell, as many as fit into 64 bits, and how many digits are left
over. -/
def leading (digits : List Char) : Nat × Nat :=
  digits.foldl (fun (value, left) digit =>
    let next := value * 10 + Text.digitValue digit
    if left = 0 ∧ next < Nat.pow 2 64 then (next, 0) else (value, left + 1)) (0, 0)

/-- The number divided by a power of ten, in steps that a floating-point number can hold. -/
def divided (value : Float) (power : Nat) : Float :=
  if power ≤ 308 then value / Float.ofScientific 1 false power
  else divided (value / Float.ofScientific 1 false 308) (power - 308)
termination_by power

/-- The value as a floating-point number: the leading digits scaled by a power of ten, both
rounded. -/
def real (numeral : Numeral) : Float :=
  let (mantissa, left) := leading numeral.digits
  let exponent := numeral.exponent - numeral.places + left
  let size := Float.ofNat mantissa
  let size :=
    if mantissa = 0 then 0
    else if 0 ≤ exponent then size * Float.ofScientific 1 false exponent.toNat
    else divided size exponent.natAbs
  if numeral.isNegative then -size else size

end Numeral

/-- A JSON value. -/
inductive Json where
  | null
  | boolean (value : Bool)
  | number (numeral : Numeral)
  | text (value : String)
  | array (elements : List Json)
  | object (fields : List (String × Json))
deriving Inhabited

namespace Json

/-- The object with the given fields, in the order of their names. Of the values given for one name
the last counts. -/
def ofFields (fields : List (String × Json)) : Json :=
  let last := fields.foldr (fun field kept =>
    if kept.any (·.1 == field.1) then kept else field :: kept) []
  .object (last.mergeSort fun a b => a.1 ≤ b.1)

/-- The value of an object's field; a null counts as no value. -/
def field? (json : Json) (name : String) : Option Json :=
  match json with
  | .object fields =>
    match fields.lookup name with
    | some .null => none
    | found => found
  | _ => none

end Json

end MachineCompiler
