import MachineCompiler.Proofs.Compile.Triple

/-!
# Two runs of one action

What can be said about two runs of an action that start in different states. `Parallel` compares
runs of two actions that end alike: both with the same value, or both with the same failure. `Steady`
says that the runs of one action end alike and that the states stay related.
-/

namespace MachineCompiler.Action

variable {σ π α β : Type} {setup : Setup σ π}

/-- How two runs have ended: with one value and `Q`, or with one failure and `E`. -/
inductive Together (Q : α → Compile σ π → Compile σ π → Prop)
    (E : Compile σ π → Compile σ π → Prop) :
    Except Failure α × Compile σ π → Except Failure α × Compile σ π → Prop where
  | value {value : α} {first second : Compile σ π} (h : Q value first second) :
      Together Q E (.ok value, first) (.ok value, second)
  | failure {failure : Failure} {first second : Compile σ π} (h : E first second) :
      Together Q E (.error failure, first) (.error failure, second)

/-- From states with `P`, the two actions end alike, with `Q` or with `E`. -/
def Parallel (setup : Setup σ π) (P : Compile σ π → Compile σ π → Prop)
    (action action' : Action σ π α) (Q : α → Compile σ π → Compile σ π → Prop)
    (E : Compile σ π → Compile σ π → Prop) : Prop :=
  ∀ first second, P first second →
    Together Q E (action.run setup first) (action'.run setup second)

/-- Two runs of the action from related states end alike in related states. -/
def Steady (setup : Setup σ π) (R : Compile σ π → Compile σ π → Prop) (action : Action σ π α) :
    Prop :=
  Parallel setup R action action (fun _ => R) R

/-- The action is steady and yields a value with the property. -/
def Yields (setup : Setup σ π) (R : Compile σ π → Compile σ π → Prop) (action : Action σ π α)
    (fact : α → Prop) : Prop :=
  Parallel setup R action action (fun value first second => R first second ∧ fact value) R

variable {P P' : Compile σ π → Compile σ π → Prop} {Q Q' : α → Compile σ π → Compile σ π → Prop}
  {R : Compile σ π → Compile σ π → Prop} {S : β → Compile σ π → Compile σ π → Prop}
  {E E' : Compile σ π → Compile σ π → Prop}

theorem Together.mono {outcome outcome' : Except Failure α × Compile σ π}
    (h : Together Q E outcome outcome')
    (hQ : ∀ value first second, Q value first second → Q' value first second)
    (hE : ∀ first second, E first second → E' first second) : Together Q' E' outcome outcome' := by
  cases h with
  | value h => exact .value (hQ _ _ _ h)
  | failure h => exact .failure (hE _ _ h)

/-- What is known about the states in which two runs end goes for both ways to end. -/
theorem Together.and {outcome outcome' : Except Failure α × Compile σ π}
    (h : Together Q E outcome outcome') (hR : R outcome.2 outcome'.2) :
    Together (fun value first second => Q value first second ∧ R first second)
      (fun first second => E first second ∧ R first second) outcome outcome' := by
  cases h with
  | value h => exact .value ⟨h, hR⟩
  | failure h => exact .failure ⟨h, hR⟩

namespace Parallel

theorem pure {value : α} (h : ∀ first second, P first second → Q value first second) :
    Parallel setup P (pure value) (pure value) Q E :=
  fun first second hP => .value (h first second hP)

theorem fail {failure : Failure} (h : ∀ first second, P first second → E first second) :
    Parallel setup P (Action.fail failure : Action σ π α) (Action.fail failure) Q E :=
  fun first second hP => .failure (h first second hP)

/-- Sequences are handled one pair of actions after the other. -/
theorem bind {action action' : Action σ π α} {next next' : α → Action σ π β}
    (h : Parallel setup P action action' Q E)
    (hnext : ∀ value, Parallel setup (Q value) (next value) (next' value) S E) :
    Parallel setup P (action >>= next) (action' >>= next') S E := by
  intro first second hP
  have hboth := h first second hP
  rw [run_bind, run_bind]
  generalize action.run setup first = outcome at hboth
  generalize action'.run setup second = outcome' at hboth
  cases hboth with
  | value hQ => exact hnext _ _ _ hQ
  | failure hE => exact .failure hE

theorem mono {action action' : Action σ π α} (h : Parallel setup P action action' Q E)
    (hP : ∀ first second, P' first second → P first second)
    (hQ : ∀ value first second, Q value first second → Q' value first second)
    (hE : ∀ first second, E first second → E' first second) :
    Parallel setup P' action action' Q' E' :=
  fun first second hcompiles => (h first second (hP first second hcompiles)).mono hQ hE

/-- What holds for good may be used where the actions start. -/
theorem given {fact : Prop} {action action' : Action σ π α}
    (h : fact → Parallel setup P action action' Q E) :
    Parallel setup (fun first second => P first second ∧ fact) action action' Q E :=
  fun first second hcompiles => h hcompiles.2 first second hcompiles.1

/-- Each run gets the state that it is in. -/
theorem get_bind {next next' : Compile σ π → Action σ π α}
    (h : ∀ first second, P first second → Parallel setup P (next first) (next' second) Q E) :
    Parallel setup P (MonadState.get >>= next) (MonadState.get >>= next') Q E :=
  fun first second hP => h first second hP first second hP

end Parallel

namespace Steady

theorem pure {value : α} : Steady setup R (pure value : Action σ π α) :=
  Parallel.pure fun _ _ h => h

theorem fail {failure : Failure} : Steady setup R (Action.fail failure : Action σ π α) :=
  Parallel.fail fun _ _ h => h

theorem of_except {ε : Type} {toFailure : ε → Failure} {result : Except ε α} :
    Steady setup R (ofExcept toFailure result : Action σ π α) := by
  cases result with
  | error error => exact fail
  | ok value => exact pure

theorem bind {action : Action σ π α} {next : α → Action σ π β} (h : Steady setup R action)
    (hnext : ∀ value, Steady setup R (next value)) : Steady setup R (action >>= next) :=
  Parallel.bind h hnext

theorem read_bind {next : Setup σ π → Action σ π α} (h : Steady setup R (next setup)) :
    Steady setup R (MonadReader.read >>= next) :=
  h

theorem ite {condition : Prop} [Decidable condition] {first second : Action σ π α}
    (hfirst : Steady setup R first) (hsecond : Steady setup R second) :
    Steady setup R (if condition then first else second) := by
  split <;> assumption

/-- An attempt yields the outcome, which is the same in both runs. -/
theorem attempt {action : Action σ π α} (h : Steady setup R action) :
    Steady setup R (Rendering.attempt action) := by
  intro first second hR
  have hboth := h first second hR
  rw [run_attempt, run_attempt]
  generalize action.run setup first = outcome at hboth
  generalize action.run setup second = outcome' at hboth
  cases hboth with
  | value h => exact .value h
  | failure h => exact .value h

/-- A change of both worlds with one value is steady when related states stay related. -/
theorem in_world {change : World σ π → β × World σ π}
    (h : ∀ first second, R first second →
      (change first.world).1 = (change second.world).1 ∧
        R { first with world := (change first.world).2 }
          { second with world := (change second.world).2 }) :
    Steady setup R (inWorld change : Action σ π β) := by
  intro first second hR
  obtain ⟨hvalue, hrelated⟩ := h first second hR
  rw [run_in_world, run_in_world, hvalue]
  exact .value hrelated

end Steady

/-! ## Properties of values -/

variable {action : Action σ π α} {fact : α → Prop}

theorem Yields.steady (h : Yields setup R action fact) : Steady setup R action :=
  h.mono (fun _ _ => id) (fun _ _ _ => And.left) fun _ _ => id

theorem Steady.yields (h : Steady setup R action) : Yields setup R action fun _ => True :=
  h.mono (fun _ _ => id) (fun _ _ _ hR => ⟨hR, trivial⟩) fun _ _ => id

theorem Yields.of_except {ε : Type} {toFailure : ε → Failure} {result : Except ε α}
    (h : ∀ value, result = .ok value → fact value) :
    Yields setup R (ofExcept toFailure result) fact := by
  cases result with
  | error error => exact Parallel.fail fun _ _ hR => hR
  | ok value => exact Parallel.pure fun _ _ hR => ⟨hR, h value rfl⟩

/-- What follows an action may rely on the property of its value. -/
theorem Yields.bind {next : α → Action σ π β} {fact' : β → Prop} (h : Yields setup R action fact)
    (hnext : ∀ value, fact value → Yields setup R (next value) fact') :
    Yields setup R (action >>= next) fact' :=
  Parallel.bind h fun value => .given fun hvalue => hnext value hvalue

theorem Yields.steady_bind {next : α → Action σ π β} (h : Yields setup R action fact)
    (hnext : ∀ value, fact value → Steady setup R (next value)) :
    Steady setup R (action >>= next) :=
  Parallel.bind h fun value => .given fun hvalue => hnext value hvalue

end MachineCompiler.Action
