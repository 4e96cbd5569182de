import MachineCompiler.Engine.Model

/-!
# Proofs

What an engine derives about a model: whether a goal holds, and proofs of the instances of a
pattern, each with the regions of the source that it speaks about.
-/

namespace MachineCompiler.Engine

/-- Whether the goal of a query holds. -/
inductive Conclusion where
  | holds
  | fails
  | unknown
deriving DecidableEq, Repr

/-- All conclusions. -/
def Conclusion.all : List Conclusion := [.holds, .fails, .unknown]

/-- The word for a conclusion. -/
def Conclusion.word : Conclusion → String
  | .holds => "true"
  | .fails => "false"
  | .unknown => "unknown"

/-- The derivation of one instance of a pattern. There is one set of regions for each way in which
the instance was derived; a set has a region for each argument of the pattern. -/
structure Proof where
  ruleClasses : List String
  conclusion : Term
  locators : List (List Span)

namespace Proof

/-- Some rule of the derivation has the class. -/
def hasRuleClass (proof : Proof) (ruleClass : String) : Bool :=
  proof.ruleClasses.contains ruleClass

/-- What follows `start` in the first rule class that begins with it, without blanks around. -/
def ruleClassAfter? (proof : Proof) (start : String) : Option String :=
  (proof.ruleClasses.findSome? (Text.after? start)).map Text.trim

/-- The region of one argument in every set that has it. -/
def locatorsOf (proof : Proof) (argument : Nat) : List Span :=
  proof.locators.filterMap fun set => set[argument]?

end Proof

/-- The proofs found for a pattern, and what the engine has to say about the search. -/
structure Enumeration where
  proofs : List Proof
  flags : List Flag

end MachineCompiler.Engine
