import MachineCompiler.Proofs.Engine.Answers

/-!
# Exchanges with an engine

An engine whose exchanges are logged answers like the engine, and writes down what it was asked, in
which state it was asked and what it answered. From the log of a compile it can be told what the
compile has asked for and when.
-/

namespace MachineCompiler

open Engine

namespace Engine

/-- What an engine is asked for. -/
inductive Request where
  | install (program : Program)
  | uninstall (names : List ProgramName)
  | query (program : ProgramName) (module : String) (goals : List String)
  | apply (step : Step)
  | render (program : ProgramName) (module : String)

/-- The operation that a request is for. -/
def Request.verb : Request → Verb
  | .install _ => .install
  | .uninstall _ => .uninstall
  | .query _ _ _ => .query
  | .apply _ => .apply
  | .render _ _ => .render

/-- A request in a state of the engine, and the answer to it. -/
structure Exchange (σ : Type) where
  state : σ
  request : Request
  answer : Answer

/-- The program that was installed, if one was. -/
def Exchange.installed? {σ : Type} (exchange : Exchange σ) : Option Program :=
  match exchange.request, exchange.answer with
  | .install program, .installed outcome => if outcome.succeeded then some program else none
  | _, _ => none

/-- The program of the name was removed. -/
def Exchange.uninstalls {σ : Type} (exchange : Exchange σ) (name : ProgramName) : Bool :=
  match exchange.request, exchange.answer with
  | .uninstall names, .uninstalled outcome => outcome.succeeded && names.any (name == ·)
  | _, _ => false

/-- What is kept of a result: its value as an answer, or that the operation failed. -/
def Answer.ofResult {α : Type} (verb : Verb) (keep : α → Answer) : Except Error α → Answer
  | .ok value => keep value
  | .error error => .failed verb error

variable {σ α : Type}

/-- The operation, with its exchange written down. -/
def log (request : Request) (keep : α → Answer) (operation : σ → Except Error α × σ)
    (state : σ × List (Exchange σ)) : Except Error α × (σ × List (Exchange σ)) :=
  let (result, next) := operation state.1
  (result, next, state.2 ++ [⟨state.1, request, .ofResult request.verb keep result⟩])

/-- The engine with all exchanges written down, in the order in which they took place. -/
def logged (engine : ModelEngine σ) : ModelEngine (σ × List (Exchange σ)) where
  install program := log (.install program) .installed (engine.install program)
  uninstall names := log (.uninstall names) .uninstalled (engine.uninstall names)
  query name module goals :=
    log (.query name module goals) .queried (engine.query name module goals)
  apply step := log (.apply step) .applied (engine.apply step)
  render name module := log (.render name module) .rendered (engine.render name module)

end Engine

variable {σ : Type}

/-- The answer to a request, and the state of the engine after it. -/
def ModelEngine.respond (engine : ModelEngine σ) (state : σ) : Request → Answer × σ
  | .install program => (engine.install program state).map (.ofResult .install .installed) id
  | .uninstall names => (engine.uninstall names state).map (.ofResult .uninstall .uninstalled) id
  | .query name module goals =>
    (engine.query name module goals state).map (.ofResult .query .queried) id
  | .apply step => (engine.apply step state).map (.ofResult .apply .applied) id
  | .render name module =>
    (engine.render name module state).map (.ofResult .render .rendered) id

/-- Every operation of the engine keeps `P`. -/
structure ModelEngine.Preserves (engine : ModelEngine σ) (P : σ → Prop) : Prop where
  install : ∀ program state, P state → P (engine.install program state).2
  uninstall : ∀ names state, P state → P (engine.uninstall names state).2
  query : ∀ name module goals state, P state → P (engine.query name module goals state).2
  apply : ∀ step state, P state → P (engine.apply step state).2
  render : ∀ name module state, P state → P (engine.render name module state).2

namespace Engine

variable {α : Type} {engine : ModelEngine σ}

/-- What a request to an engine that is logged comes to. -/
theorem log_eq {request : Request} {keep : α → Answer} {operation : σ → Except Error α × σ}
    {state : σ × List (Exchange σ)} {result : Except Error α} {next : σ}
    (h : operation state.1 = (result, next)) : log request keep operation state =
      (result, next, state.2 ++ [⟨state.1, request, .ofResult request.verb keep result⟩]) := by
  rw [log, h]

/-- An engine that is logged responds like the engine and writes the exchange down. -/
theorem logged_respond (state : σ × List (Exchange σ)) (request : Request) :
    (logged engine).respond state request =
      ((engine.respond state.1 request).1, (engine.respond state.1 request).2,
        state.2 ++ [⟨state.1, request, (engine.respond state.1 request).1⟩]) := by
  cases request <;> rfl

/-- A log that begins with `start` goes on to do so. -/
theorem log_grows {start : List (Exchange σ)} {request : Request} {keep : α → Answer}
    {operation : σ → Except Error α × σ} {state : σ × List (Exchange σ)} (h : start <+: state.2) :
    start <+: (log request keep operation state).2.2 :=
  h.trans (List.prefix_append _ _)

/-- Nothing that was written down is lost. -/
theorem logged_preserves (engine : ModelEngine σ) (start : List (Exchange σ)) :
    (logged engine).Preserves fun state => start <+: state.2 where
  install _ _ := log_grows
  uninstall _ _ := log_grows
  query _ _ _ _ := log_grows
  apply _ _ := log_grows
  render _ _ _ := log_grows

end Engine

end MachineCompiler
