import MachineCompiler.Engine.Basic

/-!
# Interference with an engine

An engine whose answers are changed at chosen calls, to see what its users do about it. Calls are
counted for each verb; a rule applies to the call of its verb with its number, or to every call of
its verb. A call may fail, installs and uninstalls may be answered in the engine's place, and the
other answers may get more messages.
-/

namespace MachineCompiler.Engine

/-- What happens to a call. -/
structure Interference where
  verb : Verb
  /-- The number of the call, counted from zero; every call if there is none. -/
  call : Option Nat
  /-- The call fails for this reason, and the engine is not asked. -/
  error : Option String
  /-- The outcome of an install or uninstall that the engine is not asked for. -/
  outcome : InstallOutcome
  /-- Messages added to the answer of an apply or render. -/
  flags : List Flag
  /-- The pattern whose enumeration is changed; every pattern if there is none. -/
  pattern : Option String
  /-- The enumeration fails, and this pattern is called invalid. -/
  invalid : Option String
  /-- Messages added to the enumeration. -/
  enumerationFlags : List Flag

/-- The rules, the number of calls of each verb so far, and the state of the engine. -/
structure Interfered (σ : Type) where
  rules : List Interference
  counts : Verb → Nat
  engine : σ

namespace Interfered

variable {σ α : Type}

/-- The state with all counts at zero. -/
def restart (state : Interfered σ) : Interfered σ :=
  { state with counts := fun _ => 0 }

/-- The rule for the next call of a verb, and the state in which that call is counted. -/
def next (state : Interfered σ) (verb : Verb) : Option Interference × Interfered σ :=
  let number := state.counts verb
  (state.rules.find? fun rule => rule.verb == verb && rule.call.all (· == number),
    { state with counts := fun v => if v = verb then number + 1 else state.counts v })

/-- Ask the engine. -/
def ask (operation : σ → Except Error α × σ) (state : Interfered σ) :
    Except Error α × Interfered σ :=
  let (answer, engine) := operation state.engine
  (answer, { state with engine })

/-- A call under the rules: it fails, or it is answered by `replaced?`, or the engine is asked and
its answer changed. -/
def call (verb : Verb) (replaced? : Interference → Option α) (changed : Interference → α → α)
    (operation : σ → Except Error α × σ) (state : Interfered σ) :
    Except Error α × Interfered σ :=
  let (rule?, state) := state.next verb
  match rule? with
  | none => ask operation state
  | some rule =>
    match rule.error, replaced? rule with
    | some reason, _ => (.error (.failed reason), state)
    | none, some answer => (.ok answer, state)
    | none, none =>
      let (answer, state) := ask operation state
      (answer.map (changed rule), state)

end Interfered

/-- The enumeration of a pattern under a rule. -/
def Interference.enumerate (rule : Interference)
    (enumerate : String → Nat → Except Error Enumeration) (pattern : String) (limit : Nat) :
    Except Error Enumeration :=
  match enumerate pattern limit with
  | .error error => .error error
  | .ok found =>
    if rule.pattern.all (· == pattern) then
      match rule.invalid with
      | some invalid => .error (.invalidPattern invalid)
      | none => .ok { found with flags := found.flags ++ rule.enumerationFlags }
    else .ok found

/-- The engine under interference. -/
def interfered {σ : Type} (engine : ModelEngine σ) : ModelEngine (Interfered σ) where
  install program :=
    Interfered.call .install (fun rule => some rule.outcome) (fun _ => id) (engine.install program)
  uninstall names :=
    Interfered.call .uninstall (fun rule => some rule.outcome) (fun _ => id)
      (engine.uninstall names)
  query name module goals :=
    Interfered.call .query (fun _ => none)
      (fun rule outcome => { outcome with enumerate := rule.enumerate outcome.enumerate })
      (engine.query name module goals)
  apply step :=
    Interfered.call .apply (fun _ => none)
      (fun rule result => { result with flags := result.flags ++ rule.flags })
      (engine.apply step)
  render name module :=
    Interfered.call .render (fun _ => none)
      (fun rule result => { result with flags := result.flags ++ rule.flags })
      (engine.render name module)

end MachineCompiler.Engine
