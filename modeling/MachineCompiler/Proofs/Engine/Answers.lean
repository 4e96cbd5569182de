import MachineCompiler.Engine.Basic

/-!
# Answers of an engine

An engine under observation answers like the engine, and every answer is kept. From the answers of a
compile it can be told which messages the compile has to pass on.
-/

namespace MachineCompiler.Engine

variable {σ α : Type}

/-- What an engine answered: the outcome of an operation, or that an operation failed. -/
inductive Answer where
  | installed (outcome : InstallOutcome)
  | uninstalled (outcome : InstallOutcome)
  | queried (outcome : QueryOutcome)
  | applied (result : ApplyResult)
  | rendered (result : RenderResult)
  | failed (verb : Verb) (error : Error)

/-- The messages that come with an answer itself. -/
def Answer.flags : Answer → List Flag
  | .installed outcome | .uninstalled outcome => outcome.flags.map Prod.snd
  | .queried outcome => outcome.flags
  | .applied result => result.flags
  | .rendered result => result.flags
  | .failed _ _ => []

/-- The operation, with its answer kept. -/
def note (verb : Verb) (keep : α → Answer) (operation : σ → Except Error α × σ)
    (state : σ × List Answer) : Except Error α × (σ × List Answer) :=
  let (answer, next) := operation state.1
  let kept :=
    match answer with
    | .ok value => keep value
    | .error error => .failed verb error
  (answer, next, state.2 ++ [kept])

/-- The engine with its answers kept, in the order they were given. -/
def observed (engine : ModelEngine σ) : ModelEngine (σ × List Answer) where
  install program := note .install .installed (engine.install program)
  uninstall names := note .uninstall .uninstalled (engine.uninstall names)
  query name module goals := note .query .queried (engine.query name module goals)
  apply step := note .apply .applied (engine.apply step)
  render name module := note .render .rendered (engine.render name module)

variable {patterns : List String} {answers : List Answer} {flag : Flag}

/-- The message comes up when the proofs of the patterns are enumerated, one for each goal, pattern
by pattern up to the first enumeration that fails. -/
inductive ComesUp (outcome : QueryOutcome) (flag : Flag) : List String → Prop where
  | here {pattern : String} {rest : List String} {found : Enumeration}
      (hfound : outcome.enumerate pattern 1 = .ok found) (hflag : flag ∈ found.flags) :
      ComesUp outcome flag (pattern :: rest)
  | later {pattern : String} {rest : List String} {found : Enumeration}
      (hfound : outcome.enumerate pattern 1 = .ok found) (hrest : ComesUp outcome flag rest) :
      ComesUp outcome flag (pattern :: rest)

/-- The message comes with one of the answers: with a query, with an enumeration of the patterns
under it, with a transform, or with a rendering after which the program was removed. -/
inductive Due (patterns : List String) (answers : List Answer) (flag : Flag) : Prop where
  | query {outcome : QueryOutcome} (hanswer : .queried outcome ∈ answers)
      (hflag : flag ∈ outcome.flags)
  | enumeration {outcome : QueryOutcome} (hanswer : .queried outcome ∈ answers)
      (hflag : ComesUp outcome flag patterns)
  | transform {result : ApplyResult} (hanswer : .applied result ∈ answers)
      (hflag : flag ∈ result.flags)
  | rendering {before after : List Answer} {result : RenderResult} {outcome : InstallOutcome}
      (hanswers : answers = before ++ .rendered result :: .uninstalled outcome :: after)
      (hsucceeded : outcome.succeeded = true) (hflag : flag ∈ result.flags)

/-- The message comes with this answer alone. -/
def Answer.Brings (patterns : List String) (flag : Flag) : Answer → Prop
  | .queried outcome => flag ∈ outcome.flags ∨ ComesUp outcome flag patterns
  | .applied result => flag ∈ result.flags
  | _ => False

/-- The answer is that a program was removed, right after a rendering that brings the message. -/
def Answer.Releases (answers : List Answer) (flag : Flag) : Answer → Prop
  | .uninstalled outcome => outcome.succeeded = true ∧
    ∃ result, answers.getLast? = some (.rendered result) ∧ flag ∈ result.flags
  | _ => False

/-- Without an answer, nothing is due. -/
theorem not_due_nil : ¬Due patterns [] flag := by
  intro h
  cases h with
  | query hanswer => nomatch hanswer
  | enumeration hanswer => nomatch hanswer
  | transform hanswer => nomatch hanswer
  | rendering hanswers => simp at hanswers

/-- A message that is due after one more answer was due before, or it came with the answer. -/
theorem Due.of_append {answer : Answer} (h : Due patterns (answers ++ [answer]) flag) :
    Due patterns answers flag ∨ answer.Brings patterns flag ∨ answer.Releases answers flag := by
  cases h with
  | query hanswer hflag =>
    rcases List.mem_append.1 hanswer with hold | hnew
    · exact .inl (.query hold hflag)
    · obtain rfl := List.mem_singleton.1 hnew
      exact .inr (.inl (.inl hflag))
  | enumeration hanswer hflag =>
    rcases List.mem_append.1 hanswer with hold | hnew
    · exact .inl (.enumeration hold hflag)
    · obtain rfl := List.mem_singleton.1 hnew
      exact .inr (.inl (.inr hflag))
  | transform hanswer hflag =>
    rcases List.mem_append.1 hanswer with hold | hnew
    · exact .inl (.transform hold hflag)
    · obtain rfl := List.mem_singleton.1 hnew
      exact .inr (.inl hflag)
  | @rendering before after result outcome hanswers hsucceeded hflag =>
    rcases after.eq_nil_or_concat with rfl | ⟨rest, last, rfl⟩
    · rw [List.append_cons before] at hanswers
      obtain ⟨rfl, hlast⟩ := List.append_inj' hanswers rfl
      obtain rfl := List.singleton_inj.1 hlast
      exact .inr (.inr ⟨hsucceeded, result, by simp, hflag⟩)
    · rw [List.concat_eq_append, ← List.cons_append, ← List.cons_append, ← List.append_assoc]
        at hanswers
      obtain ⟨rfl, -⟩ := List.append_inj' hanswers rfl
      exact .inl (.rendering rfl hsucceeded hflag)

end MachineCompiler.Engine
