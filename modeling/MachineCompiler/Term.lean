import MachineCompiler.Diagnostic.Flag
import MachineCompiler.Text.Quoted

/-!
# Terms

The structured values that declarations carry: types, bodies and expressions. A term is a constant
or the application of a functor to terms; applications know the region they come from. Terms are
printed and compared, and otherwise left to the engine.
-/

namespace MachineCompiler

/-- A term. -/
inductive Term where
  | text (value : String)
  | number (value : Int)
  | symbol (name : String)
  | app (functor : String) (arguments : List Term) (span : Span)

namespace Term

instance : Inhabited Term := ⟨.symbol ""⟩

/-- An application without a region. -/
def apply (functor : String) (arguments : List Term) : Term :=
  .app functor arguments .unknown

/-- The constant that stands for an absent value. -/
def nil : Term := .symbol "NIL"

/-- The term at a region. Constants have none and stay as they are. -/
def located (region : Span) : Term → Term
  | .app functor arguments _ => .app functor arguments region
  | constant => constant

/-- The functor of an application. -/
def functor? : Term → Option String
  | .app functor _ _ => some functor
  | _ => none

/-- The arguments of an application; a constant has none. -/
def arguments : Term → List Term
  | .app _ arguments _ => arguments
  | _ => []

/-- The region of an application. -/
def span? : Term → Option Span
  | .app _ _ span => some span
  | _ => none

/-- The value of a text constant. -/
def text? : Term → Option String
  | .text value => some value
  | _ => none

mutual

/-- Equality of terms. Regions count. -/
def same : Term → Term → Bool
  | .text a, .text b => a == b
  | .number a, .number b => a == b
  | .symbol a, .symbol b => a == b
  | .app f as r, .app g bs s => f == g && sameAll as bs && r == s
  | _, _ => false

/-- Equality of lists of terms. -/
def sameAll : List Term → List Term → Bool
  | [], [] => true
  | a :: as, b :: bs => same a b && sameAll as bs
  | _, _ => false

end

instance : BEq Term := ⟨same⟩

mutual

/-- A term and the terms in it, outermost first and from left to right. -/
def subterms : Term → List Term
  | .app functor arguments span => .app functor arguments span :: subtermsOfAll arguments
  | constant => [constant]

/-- The subterms of every term of a list. -/
def subtermsOfAll : List Term → List Term
  | [] => []
  | term :: rest => subterms term ++ subtermsOfAll rest

end

mutual

/-- The printed form: texts are quoted, applications have their arguments in parentheses. -/
def print : Term → String
  | .text value => Text.quoted value
  | .number value => toString value
  | .symbol name => name
  | .app functor arguments _ => functor ++ "(" ++ printAll arguments ++ ")"

/-- Printed terms, separated by commas. -/
def printAll : List Term → String
  | [] => ""
  | [term] => print term
  | term :: rest => print term ++ ", " ++ printAll rest

end

instance : ToString Term := ⟨print⟩

end Term

end MachineCompiler
