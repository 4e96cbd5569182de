/-!
# Sets of code points

The properties of the Unicode character database are kept as lists of closed ranges of code
points, in ascending order.
-/

namespace MachineCompiler.Text.Unicode

/-- A set of code points, as closed ranges in ascending order. -/
abbrev Ranges := List (Nat × Nat)

/-- A code point belongs to the set when some range holds it. The search ends at the first range
that begins above the code point. -/
def Ranges.holds : Ranges → Nat → Bool
  | [], _ => false
  | (first, last) :: rest, code =>
    if code < first then false else code ≤ last || Ranges.holds rest code

end MachineCompiler.Text.Unicode
