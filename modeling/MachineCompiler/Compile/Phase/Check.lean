import MachineCompiler.Compile.Phase.Basic

/-!
# Checking the program

The engine is asked whether the requirements of the root module hold, and for the proofs of every
kind of error. A program passes when the requirements hold and no error was recorded.
-/

namespace MachineCompiler.Phase

open Engine (Conclusion Enumeration Proof QueryOutcome)

variable {σ π : Type}

/-- A kind of error: the pattern of its conclusions, and the argument at whose regions it is
reported. Without one it is reported for the root file as a whole. -/
structure ErrorPattern where
  pattern : String
  location : Option Nat
deriving DecidableEq

/-- The kinds of errors in the order in which they are looked for. The general error about a type
comes last, after the special ones about the same expression. -/
def errorPatterns : List ErrorPattern := [
  ⟨"DupNmdSubE(_, _, _, _)", some 1⟩,
  ⟨"PurityError(_, _)", some 1⟩,
  ⟨"SpecError(_, _)", some 1⟩,
  ⟨"LValueError(_, _)", some 1⟩,
  ⟨"BadLabelError(_)", some 0⟩,
  ⟨"PayloadError(_)", some 0⟩,
  ⟨"TypeDefError(_)", some 0⟩,
  ⟨"FunRetError(_)", some 0⟩,
  ⟨"FunDeclQualifierError(_, _)", some 1⟩,
  ⟨"FunCallQualifierError(_, _, _)", some 2⟩,
  ⟨"SendQualifierError(_, _)", some 1⟩,
  ⟨"UnavailableVarAccessError(_, _, _)", some 1⟩,
  ⟨"UnavailableParameterError(_, _)", some 0⟩,
  ⟨"OneDeclError(_)", some 0⟩,
  ⟨"TwoDeclError(_, _)", some 1⟩,
  ⟨"DeclFunError(_, _)", some 1⟩,
  ⟨"ExportInterfaceError(_)", some 0⟩,
  ⟨"TypeOf(_, _, ERROR)", some 1⟩]

/-- The pattern of inferred types. -/
def typePattern : String := "TypeOf(_, _, _)"

/-- The class of the rules that prove errors. -/
def errorClass : String := "error"

/-- What the class of a rule begins with that holds a message. -/
def messageStart : String := "msg:"

/-- The message of an error whose rules have none. -/
def unknownError : String := "Unknown error"

/-- The message of a proven error. -/
def errorMessage (proof : Proof) : String :=
  (proof.ruleClassAfter? messageStart).getD unknownError

/-- A flag at a region, for the program of the region. -/
def flagAt (severity : Severity) (message : String) (code : FlagCode) (span : Span) : Flag :=
  ⟨severity, span, message, code, span.program⟩

/-- The flags for a proof under a pattern; none if it proves no error. -/
def errorFlagsOf (location : Option Nat) (root : ProgramName) (proof : Proof) : List Flag :=
  if proof.hasRuleClass errorClass then
    match location with
    | some argument =>
      (proof.locatorsOf argument).map (flagAt .error (errorMessage proof) .typeError)
    | none => [(Flag.error (errorMessage proof) .typeError).inProgram (some root)]
  else []

/-- The flags for the proofs found for a kind of error, and then the flags of the search. -/
def errorFlags (pattern : ErrorPattern) (root : ProgramName) (found : Enumeration) : List Flag :=
  found.proofs.flatMap (errorFlagsOf pattern.location root) ++ found.flags

/-- The flags for a proof of an inferred type. -/
def typeFlagsOf (proof : Proof) : List Flag :=
  match proof.conclusion.arguments[2]? with
  | none => []
  | some type =>
    (proof.locatorsOf 1).map (flagAt .info ("inferred type: " ++ type.print) .plain)

/-- The flags for the inferred types, and then the flags of the search. -/
def typeFlags (found : Enumeration) : List Flag :=
  found.proofs.flatMap typeFlagsOf ++ found.flags

/-- The proofs of a pattern, at most one for each goal. -/
def proofsOf (outcome : QueryOutcome) (pattern : String) : Action σ π Enumeration :=
  Action.ofExcept (fun error => .compiler (.engine .query error)) (outcome.enumerate pattern 1)

/-- Record the flags for each kind of error. -/
def recordErrors (outcome : QueryOutcome) (root : ProgramName) :
    List ErrorPattern → Action σ π Unit
  | [] => return ()
  | pattern :: rest => do
    let found ← proofsOf outcome pattern.pattern
    Action.addFlags (errorFlags pattern root found)
    recordErrors outcome root rest

/-- Check the root module under the given kinds of errors. -/
def runCheckWith (patterns : List ErrorPattern) : Action σ π Unit := do
  let setup ← read
  let root ← Action.root
  let rootModule := (← Action.product).rootModule
  let outcome ←
    Action.ask .query (setup.engine.query root rootModule [rootModule ++ ".requires"])
  Action.addFlags outcome.flags
  recordErrors outcome root patterns
  if setup.options.printTypes then
    let found ← proofsOf outcome typePattern
    Action.addFlags (typeFlags found)
  if outcome.conclusion ≠ .holds ∨ (← Action.product).diagnostics.hasErrors then
    Action.fail (.phase "check")
  Action.advance .checked

/-- Check the root module. -/
def runCheck : Action σ π Unit :=
  runCheckWith errorPatterns

/-- The phase that checks the installed root model. -/
def check : Phase σ π where
  name := "check"
  description := "Check the installed program and report errors"
  enabled _ _ := true
  run := runCheck

end MachineCompiler.Phase
