/-!
# The shortest decimal of a floating-point number

A finite binary number is printed with the fewest decimal digits that no other binary number is
closer to. The digits are found on decimal grids that get finer one digit at a time: of each grid
only the two points around the number need to be looked at, because if any point of the grid rounds
to the number, one of these does. All of it is exact arithmetic on natural numbers.

How the digits are written is up to a format: which way a tie between the two points goes, and when
the number is written as a fraction with a power of ten.
-/

namespace MachineCompiler.Text

/-- The positive number `mantissa * 2 ^ exponent`, as a binary format with 53 bits holds it. -/
structure BinaryNumber where
  mantissa : Nat
  exponent : Int

/-- The positive number `digits * 10 ^ exponent`. -/
structure DecimalNumber where
  digits : Nat
  exponent : Int

/-- Where a number goes that is as close to one point of a grid as to the other. -/
inductive Tie where
  | toEven
  | awayFromZero
deriving DecidableEq, Repr

namespace BinaryNumber

/-- The absolute value of a finite number with the given bits; nothing for zero. -/
def ofBits? (bits : Nat) : Option BinaryNumber :=
  let fraction : Nat := bits % Nat.pow 2 52
  let biased : Nat := bits / Nat.pow 2 52 % Nat.pow 2 11
  if biased = 0 then if fraction = 0 then none else some ⟨fraction, -1074⟩
  else some ⟨Nat.pow 2 52 + fraction, (biased : Int) - 1075⟩

/-- The numerator of `quarters * 2 ^ (exponent - 2)` as a multiple of the grid `10 ^ grid`. -/
def numerator (number : BinaryNumber) (quarters : Nat) (grid : Int) : Nat :=
  quarters * Nat.pow 2 (number.exponent - 2).toNat * Nat.pow 10 (-grid).toNat

/-- The denominator that belongs to it. -/
def denominator (number : BinaryNumber) (grid : Int) : Nat :=
  Nat.pow 2 (2 - number.exponent).toNat * Nat.pow 10 grid.toNat

/-- The number of digits before the decimal point; negative for zeros after it. -/
def magnitude (number : BinaryNumber) : Int :=
  let above := number.numerator (4 * number.mantissa) 0
  let below := number.denominator 0
  if below ≤ above then ((toString (above / below)).length : Int)
  else 1 - ((toString ((below - 1) / above)).length : Int)

/-- The lower end of the numbers that round to this one, in quarters of its last bit. Below a power
of two the binary numbers are twice as dense. -/
def lowest (number : BinaryNumber) : Nat :=
  if number.mantissa = Nat.pow 2 52 ∧ -1074 < number.exponent then 4 * number.mantissa - 1
  else 4 * number.mantissa - 2

/-- The multiple `point` of the grid rounds to this number. A point halfway to a neighbour goes to
the even one. -/
def isNear (number : BinaryNumber) (grid : Int) (point : Nat) : Bool :=
  let low := number.numerator number.lowest grid
  let high := number.numerator (4 * number.mantissa + 2) grid
  let place := point * number.denominator grid
  if number.mantissa % 2 = 0 then low ≤ place && place ≤ high else low < place && place < high

/-- The point of the grid that rounds to this number and is closest to it, if there is one. -/
def pointOn? (tie : Tie) (number : BinaryNumber) (grid : Int) : Option Nat :=
  let above := number.numerator (4 * number.mantissa) grid
  let below := number.denominator grid
  let floor := above / below
  match number.isNear grid floor, number.isNear grid (floor + 1) with
  | true, true =>
    match compare (2 * (above % below)) below, tie with
    | .lt, _ => some floor
    | .eq, .toEven => some (if floor % 2 = 0 then floor else floor + 1)
    | _, _ => some (floor + 1)
  | true, false => some floor
  | false, true => some (floor + 1)
  | false, false => none

/-- The shortest decimal with at least `17 - left` digits; seventeen always suffice. -/
def shortestFrom (tie : Tie) (number : BinaryNumber) : (left : Nat) → DecimalNumber
  | 0 =>
    let grid := number.magnitude - 17
    ⟨(number.pointOn? tie grid).getD 0, grid⟩
  | left + 1 =>
    let grid := number.magnitude - (16 - left)
    match number.pointOn? tie grid with
    | some digits => ⟨digits, grid⟩
    | none => number.shortestFrom tie left

/-- The shortest decimal that rounds to the number. A number just below a power of ten may be found
as ten times the power below. -/
def shortest (tie : Tie) (number : BinaryNumber) : DecimalNumber :=
  let found := number.shortestFrom tie 16
  if found.digits = 10 then ⟨1, found.exponent + 1⟩ else found

end BinaryNumber

/-- A decimal written out with a point and at least one digit on either side of it. -/
def DecimalNumber.positional (number : DecimalNumber) : String :=
  let written := (toString number.digits).toList
  let count := written.length
  let zeros (length : Nat) : List Char := List.replicate length '0'
  if 0 ≤ number.exponent then
    String.ofList (written ++ zeros number.exponent.toNat ++ ['.', '0'])
  else
    let places := number.exponent.natAbs
    if places < count then
      String.ofList (written.take (count - places) ++ '.' :: written.drop (count - places))
    else String.ofList ('0' :: '.' :: zeros (places - count) ++ written)

/-- A decimal with one digit before the point and the power of ten that belongs to it. A point that
nothing follows is left out. -/
def DecimalNumber.scientific (number : DecimalNumber) : String :=
  let written := (toString number.digits).toList
  let power := number.exponent + (written.length - 1 : Nat)
  let places := written.drop 1
  String.ofList (written.take 1 ++ (if places.isEmpty then [] else '.' :: places))
    ++ (if power < 0 then "e" else "e+") ++ toString power

/-- How floating-point numbers are written. -/
structure RealFormat where
  tie : Tie
  /-- The powers of ten that bound the numbers written out: from the first one on and below the
  second. Without them all numbers are. -/
  writtenOut : Option (Int × Int)

namespace RealFormat

/-- All numbers written out; ties go away from zero. -/
def positional : RealFormat := ⟨.awayFromZero, none⟩

/-- Numbers written out where that takes few zeros; ties go to the even digit. -/
def brief : RealFormat := ⟨.toEven, some (-5, 16)⟩

/-- A positive decimal as text. -/
def decimal (format : RealFormat) (number : DecimalNumber) : String :=
  let power := number.exponent + ((toString number.digits).length - 1 : Nat)
  match format.writtenOut with
  | some (low, high) =>
    if low ≤ power ∧ power < high then number.positional else number.scientific
  | none => number.positional

/-- A floating-point number as text: its shortest decimal. -/
def text (format : RealFormat) (value : Float) : String :=
  let bits := value.toBits.toNat
  let sign := if bits / Nat.pow 2 63 = 1 then "-" else ""
  if bits / Nat.pow 2 52 % Nat.pow 2 11 = 2047 then
    if bits % Nat.pow 2 52 = 0 then sign ++ "inf" else "NaN"
  else
    match BinaryNumber.ofBits? bits with
    | none => sign ++ "0.0"
    | some number => sign ++ format.decimal (number.shortest format.tie)

end RealFormat

end MachineCompiler.Text
