import MachineCompiler.Engine.InMemory

/-!
# Sample rules

The rules of a small engine that is complete enough for every stage of a compile. The check reports
each use of a variable that the machine of the function does not declare. The transforms make one
file from the functions of a program, one that links it, and one from its machines.
-/

namespace MachineCompiler.Engine.Sample

/-- The fact that describes a file. -/
def file (name contents : String) : Term :=
  .apply "File" [.text name, .text contents]

/-- The texts that the facts of a functor have as their first argument. -/
def namesOf (model : Model) (functor : String) : List String :=
  (model.factsOf functor).filterMap fun fact => fact.term.arguments.head?.bind Term.text?

/-- The variables that a model declares, each with the printed name of its owner. -/
def declaredVariables (model : Model) : List (String × String) :=
  (model.factsOf "VarDecl").filterMap fun fact =>
    match fact.term.arguments with
    | .text name :: owner :: _ => some (owner.print, name)
    | _ => none

/-- The variable that a term uses. -/
def usedVariable? (term : Term) : Option String :=
  if term.functor? == some "Use" then term.arguments.head?.bind Term.text? else none

/-- The proof that a function uses a variable that its owner does not declare. -/
def unavailable (function variableName : String) (owner : Term) (functionSpan useSpan : Span) :
    Proof where
  ruleClasses := ["error", "msg: variable " ++ variableName ++ " is not declared"]
  conclusion :=
    .apply "UnavailableVarAccessError" [.text function, .text variableName, owner]
  locators := [[functionSpan, useSpan, functionSpan]]

/-- The proofs about one fact of a function: one for each use of a variable that is not declared,
in the order of the body. -/
def unavailableIn (declared : List (String × String)) (fact : Fact) : List Proof :=
  match fact.term.arguments with
  | [.text function, owner, _, _, body] =>
    let functionSpan := fact.term.span?.getD .unknown
    body.subterms.filterMap fun term =>
      (usedVariable? term).bind fun name =>
        if declared.contains (owner.print, name) then none
        else some (unavailable function name owner functionSpan (term.span?.getD .unknown))
  | _ => []

/-- The model passes when every variable that is used is declared. -/
def check (model : Model) : Verdict :=
  let proofs := (model.factsOf "FunDecl").flatMap (unavailableIn (declaredVariables model))
  if proofs.isEmpty then Verdict.pass else ⟨.fails, proofs, []⟩

/-- The first constant if it is a text, and else `fallback`. -/
def firstText (constants : List Term) (fallback : String) : String :=
  (constants.head?.bind Term.text?).getD fallback

/-- The names of a model's facts of a functor; none if there is no model. -/
def namesOfFirst (models : List Model) (functor : String) : List String :=
  (models.head?.map fun model => namesOf model functor).getD []

/-- Lower a program to a file that lists its functions, and a descriptor that names the file. -/
def lowerToC : Transform := fun models constants =>
  let base := firstText constants "out"
  let functions := namesOfFirst models "FunDecl"
  let contents := "// functions: " ++ String.intercalate ", " functions ++ "\n"
  [⟨"CModel", .named "C", [⟨some "file", file (base ++ ".c") contents⟩]⟩,
    ⟨"LinkModel", .named "PLink", [⟨none, .apply "LinkUnit" [.text base]⟩]⟩]

/-- Lower a descriptor to a file with the number of its units. -/
def lowerLink : Transform := fun models _ =>
  let units := (models.head?.map fun model => model.facts.length).getD 0
  [⟨"CLinkModel", .named "C",
    [⟨none, file "linker.c" ("// units: " ++ toString units ++ "\n")⟩]⟩]

/-- Leave a program as it is. -/
def inferTypes : Transform := fun models _ => models.take 1

/-- Lower a program to a file that lists its machines. -/
def lowerToZing : Transform := fun models constants =>
  let name := firstText constants "out.zing"
  let machines := namesOfFirst models "MachineDecl"
  let contents := "// machines: " ++ String.intercalate ", " machines ++ "\n"
  [⟨"ZingModel", .named "Zing", [⟨none, file name contents⟩]⟩]

/-- The sample rules. -/
def rules : Rules where
  check := check
  transforms :=
    [("P2CProgram", lowerToC), ("PLink2C", lowerLink), ("P2PWithInferredTypes", inferTypes),
      ("P2Zing", lowerToZing)]

end MachineCompiler.Engine.Sample
