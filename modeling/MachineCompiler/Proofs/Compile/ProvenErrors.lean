import MachineCompiler.Engine.Sample
import MachineCompiler.Proofs.Compile.SingleFile
import MachineCompiler.Proofs.Diagnostic.InferredTypes
import MachineCompiler.Proofs.ProgramName.Identity

/-!
# Proven errors

A proof of an error is reported at the regions that it gives for one of its arguments. When there is
such a region, the error is recorded as soon as the proof is found, and the check does not pass,
whatever else the engine concludes and whichever search fails later. A proof without such a region
leaves no trace: the check may pass although an error was proved.
-/

namespace MachineCompiler

open Action
open Engine (Enumeration Memory Proof QueryOutcome)

variable {σ π : Type} {setup : Setup σ π} {message : String} {stage : Stage}

/-! ## Reported messages -/

/-- An error with the message is recorded. -/
def Diagnostics.Reports (diagnostics : Diagnostics) (message : String) : Prop :=
  ∃ flag ∈ diagnostics.flags, flag.isError = true ∧ flag.message = message

namespace Diagnostics

variable {diagnostics : Diagnostics}

/-- It does not matter which of the flags that are not told apart is held. -/
theorem reports_iff_holds : diagnostics.Reports message ↔
    ∃ flag, diagnostics.holds flag = true ∧ flag.isError = true ∧ flag.message = message := by
  refine ⟨fun ⟨flag, hmem, hflag⟩ => ⟨flag, ?_, hflag⟩, fun ⟨flag, hholds, herror, hmessage⟩ => ?_⟩
  · exact List.any_eq_true.2 ⟨flag, hmem, beq_iff_eq.2 Std.ReflCmp.compare_self⟩
  · obtain ⟨held, hmem, hsame⟩ := List.any_eq_true.1 hholds
    have hsame := beq_iff_eq.1 hsame
    exact ⟨held, hmem, (Flag.is_error_congr hsame).symm.trans herror,
      (Flag.message_of_order_eq hsame).symm.trans hmessage⟩

/-- What is reported stays reported when more flags are recorded. -/
theorem Reports.add_all (h : diagnostics.Reports message) (flags : List Flag) :
    (diagnostics.addAll flags).Reports message := by
  obtain ⟨flag, hholds, hflag⟩ := reports_iff_holds.1 h
  exact reports_iff_holds.2 ⟨flag, holds_add_all.2 (.inr hholds), hflag⟩

/-- An error is reported once it is recorded, also when it had been recorded before. -/
theorem reports_of_mem {flags : List Flag} {flag : Flag} (hmem : flag ∈ flags)
    (herror : flag.isError = true) : (diagnostics.addAll flags).Reports flag.message :=
  reports_iff_holds.2
    ⟨flag, holds_add_all.2 (.inl ⟨flag, hmem, Std.ReflCmp.compare_self⟩), herror, rfl⟩

theorem Reports.has_errors (h : diagnostics.Reports message) : diagnostics.hasErrors = true := by
  obtain ⟨flag, hmem, herror, -⟩ := h
  exact List.any_eq_true.2 ⟨flag, hmem, herror⟩

end Diagnostics

namespace Phase

/-! ## Proofs and their flags -/

variable {pattern : ErrorPattern} {root : ProgramName} {outcome : QueryOutcome}
  {found : Enumeration} {proof : Proof}

/-- The proof has a region for the argument at which errors of the kind are reported, if there is
such an argument. -/
def ErrorPattern.Locates (pattern : ErrorPattern) (proof : Proof) : Prop :=
  ∀ argument, pattern.location = some argument →
    ∃ regions ∈ proof.locators, argument < regions.length

/-- Among `patterns`, the searches for the kinds of errors before `pattern` are carried out. -/
def ErrorPattern.Reached (pattern : ErrorPattern) (patterns : List ErrorPattern)
    (outcome : QueryOutcome) : Prop :=
  ∀ earlier ∈ patterns.takeWhile (· ≠ pattern), (outcome.enumerate earlier.pattern 1).isOk = true

/-- Each flag for a proof is an error with the message of the proof. -/
theorem error_of_mem_error_flags_of {location : Option Nat} {flag : Flag}
    (h : flag ∈ errorFlagsOf location root proof) :
    flag.isError = true ∧ flag.message = errorMessage proof := by
  unfold errorFlagsOf at h
  split at h
  · cases location with
    | none => rw [List.mem_singleton.1 h]; exact ⟨rfl, rfl⟩
    | some argument =>
      obtain ⟨span, -, rfl⟩ := List.mem_map.1 h
      exact ⟨rfl, rfl⟩
  · exact absurd h List.not_mem_nil

/-- A proof of an error leaves no flag exactly when it has no region where the error is reported. -/
theorem error_flags_of_eq_nil_iff (herror : proof.hasRuleClass errorClass = true) :
    errorFlagsOf pattern.location root proof = [] ↔ ¬pattern.Locates proof := by
  unfold errorFlagsOf ErrorPattern.Locates
  rw [if_pos herror]
  cases pattern.location with
  | none => simp
  | some argument => simp [Proof.locatorsOf, List.filterMap_eq_nil_iff]

/-- When the error is located, its message is reported together with all that was found. -/
theorem reports_error_flags (hproof : proof ∈ found.proofs)
    (herror : proof.hasRuleClass errorClass = true) (hlocated : pattern.Locates proof)
    (diagnostics : Diagnostics) :
    (diagnostics.addAll (errorFlags pattern root found)).Reports (errorMessage proof) := by
  have hflags : errorFlagsOf pattern.location root proof ≠ [] :=
    fun hnone => (error_flags_of_eq_nil_iff herror).1 hnone hlocated
  obtain ⟨flag, hmem⟩ := List.exists_mem_of_ne_nil _ hflags
  obtain ⟨hflag, hmessage⟩ := error_of_mem_error_flags_of hmem
  have hall : flag ∈ errorFlags pattern root found :=
    List.mem_append_left _ (List.mem_flatMap.2 ⟨proof, hproof, hmem⟩)
  exact hmessage ▸ Diagnostics.reports_of_mem hall hflag

/-! ## Recording what is found -/

/-- The compile is at the stage, and an error with the message is recorded. -/
def Accused (stage : Stage) (message : String) (compile : Compile σ π) : Prop :=
  compile.product.stage = stage ∧ compile.product.diagnostics.Reports message

/-- The compile is at the stage, and an error with the message is recorded unless the search for it
was not reached. -/
def AccusedIf (reached : Prop) (stage : Stage) (message : String) (compile : Compile σ π) : Prop :=
  compile.product.stage = stage ∧ (reached → compile.product.diagnostics.Reports message)

theorem Accused.accused_if {reached : Prop} {compile : Compile σ π}
    (h : Accused stage message compile) : AccusedIf reached stage message compile :=
  ⟨h.1, fun _ => h.2⟩

theorem accused_add_flags (flags : List Flag) :
    Keeps setup (Accused stage message) (addFlags flags) :=
  fun _ haccused => ⟨haccused.1, haccused.2.add_all flags⟩

/-- The error is recorded once the search for its kind is reached, and only a search before it that
fails can keep it from being reached. -/
theorem record_errors_accuses (hfound : outcome.enumerate pattern.pattern 1 = .ok found)
    (hproof : proof ∈ found.proofs) (herror : proof.hasRuleClass errorClass = true)
    (hlocated : pattern.Locates proof) {patterns : List ErrorPattern}
    (hpattern : pattern ∈ patterns) :
    Triple setup (fun compile => compile.product.stage = stage)
      (recordErrors outcome root patterns) (fun _ => Accused stage (errorMessage proof))
      fun _ => AccusedIf (pattern.Reached patterns outcome) stage (errorMessage proof) := by
  induction patterns with
  | nil => exact absurd hpattern List.not_mem_nil
  | cons first rest ih =>
    by_cases hfirst : first = pattern
    -- The proof is found now, and what is recorded for it stays.
    · subst hfirst
      refine Triple.bind (Triple.of_except fun error _ hfails _ => ?_) fun enumeration => ?_
      · rw [hfound] at hfails
        contradiction
      refine Triple.bind (Q := fun _ => Accused stage (errorMessage proof)) ?_ fun _ =>
        (record_errors_keeps accused_add_flags).triple.mono (fun _ => id) (fun _ _ => id)
          fun _ _ => Accused.accused_if
      rintro compile ⟨hstage, hsame⟩
      rw [run_add_flags]
      obtain rfl : found = enumeration := by simpa [hfound] using hsame
      exact ⟨hstage, reports_error_flags hproof herror hlocated _⟩
    -- The search for another kind comes first. If it fails, the proof is not reached.
    · have hrest := ih ((List.mem_cons.1 hpattern).resolve_left (Ne.symm hfirst))
      have hbefore : (first :: rest).takeWhile (· ≠ pattern) =
          first :: rest.takeWhile (· ≠ pattern) :=
        List.takeWhile_cons_of_pos (by simpa using hfirst)
      refine Triple.bind (Triple.of_except fun error compile hfails hstage =>
        ⟨hstage, fun hreached => ?_⟩) fun enumeration => ?_
      · have hcarried := hreached first (hbefore ▸ List.mem_cons_self)
        rw [hfails] at hcarried
        contradiction
      refine Triple.bind (Q := fun _ compile => compile.product.stage = stage)
        (fun compile hcompile => hcompile.1) fun _ => ?_
      refine hrest.mono (fun _ => id) (fun _ _ => id) fun _ _ => And.imp_right ?_
      exact fun hreports hreached => hreports fun earlier hearlier =>
        hreached earlier (hbefore ▸ List.mem_cons_of_mem _ hearlier)

/-! ## The check -/

/-- A check in which an error was recorded does not pass. -/
theorem accused_conclude : Triple setup (Accused stage message)
    (do
      if outcome.conclusion ≠ .holds ∨ (← Action.product).diagnostics.hasErrors then
        Action.fail (.phase "check")
      Action.advance .checked : Action σ π Unit)
    (fun _ _ => False) fun _ => Accused stage message := by
  intro compile haccused
  show After _ _ (Action.run (if _ ∨ compile.product.diagnostics.hasErrors = true then
    (Action.fail _ >>= fun _ => advance .checked) else advance .checked) setup compile)
  rw [if_pos (.inr haccused.2.has_errors)]
  exact haccused

/-- A check that was answered fails when an error was proved and located. -/
theorem weigh_accuses (hpattern : pattern ∈ errorPatterns)
    (hfound : outcome.enumerate pattern.pattern 1 = .ok found) (hproof : proof ∈ found.proofs)
    (herror : proof.hasRuleClass errorClass = true) (hlocated : pattern.Locates proof) :
    Triple setup (fun compile => compile.product.stage = stage)
      (do
        Action.addFlags outcome.flags
        recordErrors outcome root errorPatterns
        if setup.options.printTypes then
          let found ← proofsOf outcome typePattern
          Action.addFlags (typeFlags found)
        if outcome.conclusion ≠ .holds ∨ (← Action.product).diagnostics.hasErrors then
          Action.fail (.phase "check")
        Action.advance .checked : Action σ π Unit)
      (fun _ _ => False)
      fun _ => AccusedIf (pattern.Reached errorPatterns outcome) stage (errorMessage proof) := by
  refine Triple.bind (Q := fun _ compile => compile.product.stage = stage)
    (fun _ hstage => hstage) fun _ => ?_
  refine (record_errors_accuses hfound hproof herror hlocated hpattern).bind fun _ => ?_
  refine Triple.mono (P := Accused stage (errorMessage proof)) (Q := fun _ _ => False)
    (E := fun _ => Accused stage (errorMessage proof)) ?_ (fun _ => id) (fun _ _ => id)
    fun _ _ => Accused.accused_if
  split
  · refine Triple.bind (Keeps.of_except.triple) fun found => ?_
    exact Triple.bind (accused_add_flags _).triple fun _ => accused_conclude
  · exact accused_conclude

/-- An error that was proved and located is reported, and the check does not pass: it leaves the
stage as it was, and an error with the message of the proof is recorded as soon as the search for
its kind is reached. The engine may conclude whatever it likes, and any other search may fail. -/
theorem located_errors_are_reported (compile : Compile σ π)
    (hroot : compile.product.root = some root)
    (hanswer : (setup.engine.query root compile.product.rootModule
      [compile.product.rootModule ++ ".requires"] compile.world.engine).1 = .ok outcome)
    (hpattern : pattern ∈ errorPatterns)
    (hfound : outcome.enumerate pattern.pattern 1 = .ok found) (hproof : proof ∈ found.proofs)
    (herror : proof.hasRuleClass errorClass = true) (hlocated : pattern.Locates proof) :
    ∃ failure after, check.run.run setup compile = (.error failure, after) ∧
      after.product.stage = compile.product.stage ∧
        (pattern.Reached errorPatterns outcome →
          ∃ flag ∈ after.product.diagnostics.flags,
            flag.severity = .error ∧ flag.message = errorMessage proof) := by
  have hends : After (fun _ _ => False)
      (fun _ => AccusedIf (pattern.Reached errorPatterns outcome) compile.product.stage
        (errorMessage proof))
      (check.run.run setup compile) := by
    show After _ _ (Action.run (runCheckWith errorPatterns) setup compile)
    rw [runCheckWith, run_bind, run_read]
    dsimp only
    rw [run_bind, run_root, hroot]
    dsimp only
    rw [run_bind, run_product]
    dsimp only
    rw [run_bind, run_ask, hanswer]
    exact weigh_accuses hpattern hfound hproof herror hlocated _ rfl
  rcases hrun : check.run.run setup compile with ⟨failure | value, after⟩ <;> rw [hrun] at hends
  · refine ⟨failure, after, rfl, hends.1, fun hreached => ?_⟩
    obtain ⟨flag, hmem, hflag, hmessage⟩ := hends.2 hreached
    exact ⟨flag, hmem, beq_iff_eq.1 hflag, hmessage⟩
  · exact hends.elim

/-! ## One proof with and without a region -/

/-- The proof that a pure function sends, with the given regions. -/
def sendingProof (locators : List (List Span)) : Proof where
  ruleClasses := ["error", "msg: pure function sends"]
  conclusion := .apply "PurityError" [.text "look", .text "send"]
  locators

/-- The requirements of the model hold, and still a pure function sends. -/
def sendingVerdict (locators : List (List Span)) : Engine.Verdict :=
  ⟨.holds, [sendingProof locators], []⟩

/-- The engine that concludes so about every model. -/
def sendingEngine (locators : List (List Span)) : ModelEngine Memory :=
  Engine.inMemory { Engine.Sample.rules with check := fun _ => sendingVerdict locators }

/-- A memory that holds a root module without facts. -/
def emptyModule (root : ProgramName) : Memory :=
  ⟨[(Engine.Program.named root).withModel ⟨"Main", .named "P", []⟩], [], none⟩

theorem query_empty_module (locators : List (List Span)) (root : ProgramName)
    (goals : List String) :
    ((sendingEngine locators).query root "Main" goals (emptyModule root)).1 =
      .ok (Memory.answer (sendingVerdict locators)) := by
  have hmodel : ((emptyModule root).record (.query root "Main")).modelOf root "Main" =
      .ok ⟨"Main", .named "P", []⟩ := by
    simp [emptyModule, Memory.record, Memory.modelOf, Memory.program?, Engine.Program.model?,
      Engine.Program.withModel, Engine.Program.named]
  have hwilling : (emptyModule root).refused = none := rfl
  simp only [sendingEngine, Engine.inMemory, Memory.start, hwilling, reduceCtorEq, if_false, hmodel,
    Except.map]

/-- The proof is found among those of its kind, whatever regions it has. -/
theorem sending_found (locators : List (List Span)) :
    ⟨"PurityError(_, _)", some 1⟩ ∈ errorPatterns ∧
      (Memory.answer (sendingVerdict locators)).enumerate "PurityError(_, _)" 1 =
        .ok ⟨[sendingProof locators], []⟩ ∧
      (sendingProof locators).hasRuleClass errorClass = true :=
  ⟨by decide, rfl, rfl⟩

/-- The first set of regions is too short and the second is not, so the error is reported. -/
theorem located_error_is_reported :
    let root := SingleMachine.root "main.p"
    let locators := [[⟨1, 1, 1, 9, some root⟩], [⟨1, 1, 1, 9, some root⟩, ⟨2, 5, 2, 9, some root⟩]]
    let compiler := SingleMachine.compiler (sendingEngine locators)
    let setup := compiler.setup .default (.ofString "main.p")
    let compile := { (SingleMachine.session "main.p" (emptyModule root)).begin with
      product := { Product.none with
        stage := .modelInstalled, root := some root, rootModule := "Main" } }
    ∃ failure after, check.run.run setup compile = (.error failure, after) ∧
      after.product.stage = .modelInstalled ∧
        ∃ flag ∈ after.product.diagnostics.flags,
          flag.severity = .error ∧ flag.message = "pure function sends" := by
  intro root locators compiler setup compile
  obtain ⟨hpattern, hfound, herror⟩ := sending_found locators
  have hlocated : ErrorPattern.Locates ⟨"PurityError(_, _)", some 1⟩ (sendingProof locators) := by
    rintro argument ⟨⟩
    exact ⟨_, .tail _ (.head _), by decide⟩
  have hroot : compile.product.root = some root := rfl
  have hanswer : (setup.engine.query root compile.product.rootModule
      [compile.product.rootModule ++ ".requires"] compile.world.engine).1 =
        .ok (Memory.answer (sendingVerdict locators)) := query_empty_module locators root _
  obtain ⟨failure, after, hrun, hstage, hreports⟩ := located_errors_are_reported compile hroot
    hanswer hpattern hfound (List.mem_singleton.2 rfl) herror hlocated
  refine ⟨failure, after, hrun, hstage, hreports fun earlier hearlier => ?_⟩
  have hall : ∀ kind ∈ errorPatterns, ((Memory.answer (sendingVerdict locators)).enumerate
      kind.pattern 1).isOk = true := by decide +kernel
  exact hall earlier ((List.takeWhile_sublist _).subset hearlier)

/-- An error without a region where it could be reported is passed over: the compile succeeds, and
nothing is written. -/
theorem unlocated_error_passes :
    let root := SingleMachine.root "main.p"
    let locators := [[⟨1, 1, 1, 9, some root⟩]]
    let compiled := (SingleMachine.compiler (sendingEngine locators)).compile
      { Options.default with analyze := true } (.ofString "main.p")
        (SingleMachine.session "main.p" .empty)
    ⟨"PurityError(_, _)", some 1⟩ ∈ errorPatterns ∧
      (Memory.answer (sendingVerdict locators)).enumerate "PurityError(_, _)" 1 =
        .ok ⟨[sendingProof locators], []⟩ ∧
      (sendingProof locators).hasRuleClass errorClass = true ∧
        compiled.1 = true ∧ compiled.2.world.transcript = [] := by
  intro root locators compiled
  obtain ⟨hpattern, hfound, herror⟩ := sending_found locators
  have hcompiled : compiled.1 = true ∧ compiled.2.world.transcript = [] := by
    rw [Compiler.succeeded_compile, Compiler.transcript_compile,
      SingleMachine.main_is_plain.run_phases_eq _ _ rfl]
    decide +kernel
  exact ⟨hpattern, hfound, herror, hcompiled⟩

end Phase

end MachineCompiler
