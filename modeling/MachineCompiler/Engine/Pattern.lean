import MachineCompiler.Engine.Result

/-!
# Query patterns

A pattern is written as an application whose arguments are wildcards or printed constants. It
matches the applications of its functor to as many arguments that print the same where the pattern
has no wildcard.
-/

namespace MachineCompiler.Engine

open Text

/-- A functor and what its arguments have to print; `_` for anything. -/
structure Pattern where
  functor : String
  arguments : List String
deriving DecidableEq

namespace Pattern

/-- Read a pattern: the functor before the first opening parenthesis, and the arguments between it
and a closing parenthesis at the end, separated by commas. Blanks around them do not count, and
arguments that are all blank are left out. -/
def read (pattern : String) : Except Error Pattern :=
  match splitOnce? '(' pattern.toList with
  | none => .error (.invalidPattern pattern)
  | some (functor, rest) =>
    match rest.reverse.dropWhile isBlank with
    | ')' :: inner =>
      let arguments := (splitWhere (· == ',') inner.reverse).map (trimWhere isBlank)
      .ok ⟨String.ofList (trimWhere isBlank functor),
        (arguments.filter (!·.isEmpty)).map String.ofList⟩
    | _ => .error (.invalidPattern pattern)

/-- The term is an instance of the pattern. -/
def accepts (pattern : Pattern) (term : Term) : Bool :=
  term.functor? == some pattern.functor
    && term.arguments.length == pattern.arguments.length
    && (pattern.arguments.zip term.arguments).all fun (expected, argument) =>
      expected == "_" || expected == argument.print

end Pattern

/-- The first proofs of each goal, at most `limit` of them, where `seen` are the goals of the proofs
kept so far. Goals are the same when they print the same. -/
def capped (limit : Nat) (seen : List String) : List Proof → List Proof
  | [] => []
  | proof :: rest =>
    let goal := proof.conclusion.print
    if seen.count goal < limit then proof :: capped limit (goal :: seen) rest
    else capped limit seen rest

/-- The proofs of the instances of a pattern, at most `limit` for each goal. -/
def enumerate (proofs : List Proof) (pattern : String) (limit : Nat) : Except Error Enumeration :=
  match Pattern.read pattern with
  | .error error => .error error
  | .ok read =>
    .ok ⟨capped limit [] (proofs.filter fun proof => read.accepts proof.conclusion), []⟩

end MachineCompiler.Engine
