import MachineCompiler.Proofs.Compile.ProvenErrors
import MachineCompiler.Proofs.Diagnostic.Canonical

/-!
# The findings of a check

What a check records is a set of flags that follows from the answer of the engine: its messages, the
messages of the searches, the located errors that were proved, and the inferred types if they are
asked for. The order in which the kinds of errors are looked for decides neither what is recorded
nor whether the check passes.
-/

namespace MachineCompiler.Phase

open Action
open Engine (Enumeration Memory Proof QueryOutcome)

variable {σ π : Type} {setup : Setup σ π} {patterns patterns' : List ErrorPattern}
  {outcome : QueryOutcome} {root : ProgramName} {printTypes : Bool} {flag : Flag}

/-! ## What there is to record -/

/-- The answer to a query gives rise to the flag, when the given kinds of errors are looked for. -/
inductive Warrants (outcome : QueryOutcome) (patterns : List ErrorPattern) (printTypes : Bool) :
    Flag → Prop where
  /-- A message that came with the answer. -/
  | answered {flag : Flag} (hflag : flag ∈ outcome.flags) :
      Warrants outcome patterns printTypes flag
  /-- A message that came with the search for a kind of error. -/
  | searched {flag : Flag} {pattern : ErrorPattern} {found : Enumeration}
      (hpattern : pattern ∈ patterns) (hfound : outcome.enumerate pattern.pattern 1 = .ok found)
      (hflag : flag ∈ found.flags) : Warrants outcome patterns printTypes flag
  /-- An error that was proved, at the region that a set has for the argument of its kind. -/
  | proved {pattern : ErrorPattern} {found : Enumeration} {proof : Proof} {argument : Nat}
      {regions : List Span} {span : Span} (hpattern : pattern ∈ patterns)
      (hfound : outcome.enumerate pattern.pattern 1 = .ok found) (hproof : proof ∈ found.proofs)
      (herror : "error" ∈ proof.ruleClasses) (hargument : pattern.location = some argument)
      (hregions : regions ∈ proof.locators) (hspan : regions[argument]? = some span) :
      Warrants outcome patterns printTypes
        ⟨.error, span, errorMessage proof, .typeError, span.program⟩
  /-- A message that came with the search for inferred types. -/
  | typesSearched {flag : Flag} {found : Enumeration} (hprint : printTypes = true)
      (hfound : outcome.enumerate typePattern 1 = .ok found) (hflag : flag ∈ found.flags) :
      Warrants outcome patterns printTypes flag
  /-- An inferred type, at the region that a set has for the expression. -/
  | inferred {found : Enumeration} {proof : Proof} {type : Term} {regions : List Span} {span : Span}
      (hprint : printTypes = true) (hfound : outcome.enumerate typePattern 1 = .ok found)
      (hproof : proof ∈ found.proofs) (htype : proof.conclusion.arguments[2]? = some type)
      (hregions : regions ∈ proof.locators) (hspan : regions[1]? = some span) :
      Warrants outcome patterns printTypes
        ⟨.info, span, "inferred type: " ++ type.print, .plain, span.program⟩

/-- What there is to record depends on which kinds of errors are looked for, not on their order. -/
theorem Warrants.of_subset (h : Warrants outcome patterns printTypes flag)
    (hsubset : patterns ⊆ patterns') : Warrants outcome patterns' printTypes flag := by
  cases h with
  | answered hflag => exact .answered hflag
  | searched hpattern hfound hflag => exact .searched (hsubset hpattern) hfound hflag
  | proved hpattern hfound hproof herror hargument hregions hspan =>
    exact .proved (hsubset hpattern) hfound hproof herror hargument hregions hspan
  | typesSearched hprint hfound hflag => exact .typesSearched hprint hfound hflag
  | inferred hprint hfound hproof htype hregions hspan =>
    exact .inferred hprint hfound hproof htype hregions hspan

/-! ## What is recorded -/

/-- The patterns that a check searches for. -/
def searches (patterns : List ErrorPattern) (printTypes : Bool) : List String :=
  patterns.map ErrorPattern.pattern ++ if printTypes then [typePattern] else []

/-- The flags recorded for a kind of error. -/
def flagsUnder (outcome : QueryOutcome) (root : ProgramName) (pattern : ErrorPattern) : List Flag :=
  match outcome.enumerate pattern.pattern 1 with
  | .ok found => errorFlags pattern root found
  | .error _ => []

/-- The flags recorded for the inferred types. -/
def flagsOfTypes (outcome : QueryOutcome) (printTypes : Bool) : List Flag :=
  if printTypes then
    match outcome.enumerate typePattern 1 with
    | .ok found => typeFlags found
    | .error _ => []
  else []

/-- The flags that a check records, in turn. -/
def flagsOfCheck (outcome : QueryOutcome) (root : ProgramName) (patterns : List ErrorPattern)
    (printTypes : Bool) : List Flag :=
  outcome.flags ++ (patterns.flatMap (flagsUnder outcome root) ++ flagsOfTypes outcome printTypes)

/-- There is a flag for each set of regions that has one for the argument. -/
theorem mem_map_flag_at {proof : Proof} {argument : Nat} {severity : Severity} {message : String}
    {code : FlagCode} : flag ∈ (proof.locatorsOf argument).map (flagAt severity message code) ↔
      ∃ regions ∈ proof.locators, ∃ span, regions[argument]? = some span ∧
        (⟨severity, span, message, code, span.program⟩ : Flag) = flag := by
  simp only [List.mem_map, Proof.locatorsOf, List.mem_filterMap, flagAt]
  constructor
  · rintro ⟨span, ⟨regions, hregions, hspan⟩, hflag⟩
    exact ⟨regions, hregions, span, hspan, hflag⟩
  · rintro ⟨regions, hregions, span, hspan, hflag⟩
    exact ⟨span, ⟨regions, hregions, hspan⟩, hflag⟩

theorem mem_error_flags {pattern : ErrorPattern} {found : Enumeration} {argument : Nat}
    (hargument : pattern.location = some argument) :
    flag ∈ errorFlags pattern root found ↔ flag ∈ found.flags ∨
      ∃ proof ∈ found.proofs, "error" ∈ proof.ruleClasses ∧ ∃ regions ∈ proof.locators, ∃ span,
        regions[argument]? = some span ∧
          (⟨.error, span, errorMessage proof, .typeError, span.program⟩ : Flag) = flag := by
  have hproof (proof : Proof) : flag ∈ errorFlagsOf pattern.location root proof ↔
      "error" ∈ proof.ruleClasses ∧ ∃ regions ∈ proof.locators, ∃ span,
        regions[argument]? = some span ∧
          (⟨.error, span, errorMessage proof, .typeError, span.program⟩ : Flag) = flag := by
    have hclass : proof.hasRuleClass errorClass = true ↔ "error" ∈ proof.ruleClasses :=
      List.contains_iff_mem
    unfold errorFlagsOf
    rw [← hclass, ← mem_map_flag_at, hargument]
    split <;> simp_all
  rw [errorFlags, List.mem_append, List.mem_flatMap, or_comm]
  simp only [hproof]

theorem mem_type_flags {found : Enumeration} :
    flag ∈ typeFlags found ↔ flag ∈ found.flags ∨
      ∃ proof ∈ found.proofs, ∃ type, proof.conclusion.arguments[2]? = some type ∧
        ∃ regions ∈ proof.locators, ∃ span, regions[1]? = some span ∧
          (⟨.info, span, "inferred type: " ++ type.print, .plain, span.program⟩ : Flag) = flag := by
  have hproof (proof : Proof) : flag ∈ typeFlagsOf proof ↔
      ∃ type, proof.conclusion.arguments[2]? = some type ∧ ∃ regions ∈ proof.locators, ∃ span,
        regions[1]? = some span ∧
          (⟨.info, span, "inferred type: " ++ type.print, .plain, span.program⟩ : Flag) = flag := by
    unfold typeFlagsOf
    simp only [← mem_map_flag_at]
    cases proof.conclusion.arguments[2]? <;> simp
  rw [typeFlags, List.mem_append, List.mem_flatMap, or_comm]
  simp only [hproof]

theorem mem_flags_under {pattern : ErrorPattern} : flag ∈ flagsUnder outcome root pattern ↔
    ∃ found, outcome.enumerate pattern.pattern 1 = .ok found ∧
      flag ∈ errorFlags pattern root found := by
  unfold flagsUnder
  cases outcome.enumerate pattern.pattern 1 <;> simp

theorem mem_flags_of_types : flag ∈ flagsOfTypes outcome printTypes ↔
    printTypes = true ∧
      ∃ found, outcome.enumerate typePattern 1 = .ok found ∧ flag ∈ typeFlags found := by
  unfold flagsOfTypes
  cases printTypes <;> cases outcome.enumerate typePattern 1 <;> simp

/-- What is recorded is what there is to record, if each kind of error is one that is located. -/
theorem mem_flags_of_check (hlocated : ∀ pattern ∈ patterns, pattern.location.isSome = true) :
    flag ∈ flagsOfCheck outcome root patterns printTypes ↔
      Warrants outcome patterns printTypes flag := by
  rw [flagsOfCheck, List.mem_append, List.mem_append, List.mem_flatMap, mem_flags_of_types]
  simp only [mem_flags_under]
  constructor
  · rintro (hflag | ⟨pattern, hpattern, found, hfound, hflag⟩ | ⟨hprint, found, hfound, hflag⟩)
    · exact .answered hflag
    · obtain ⟨argument, hargument⟩ := Option.isSome_iff_exists.1 (hlocated pattern hpattern)
      rcases (mem_error_flags hargument).1 hflag with
        hflag | ⟨proof, hproof, herror, regions, hregions, span, hspan, rfl⟩
      · exact .searched hpattern hfound hflag
      · exact .proved hpattern hfound hproof herror hargument hregions hspan
    · rcases mem_type_flags.1 hflag with
        hflag | ⟨proof, hproof, type, htype, regions, hregions, span, hspan, rfl⟩
      · exact .typesSearched hprint hfound hflag
      · exact .inferred hprint hfound hproof htype hregions hspan
  · intro hwarrants
    cases hwarrants with
    | answered hflag => exact .inl hflag
    | searched hpattern hfound hflag =>
      obtain ⟨argument, hargument⟩ := Option.isSome_iff_exists.1 (hlocated _ hpattern)
      exact .inr (.inl ⟨_, hpattern, _, hfound, (mem_error_flags hargument).2 (.inl hflag)⟩)
    | proved hpattern hfound hproof herror hargument hregions hspan =>
      exact .inr (.inl ⟨_, hpattern, _, hfound, (mem_error_flags hargument).2
        (.inr ⟨_, hproof, herror, _, hregions, _, hspan, rfl⟩)⟩)
    | typesSearched hprint hfound hflag =>
      exact .inr (.inr ⟨hprint, _, hfound, mem_type_flags.2 (.inl hflag)⟩)
    | inferred hprint hfound hproof htype hregions hspan =>
      exact .inr (.inr ⟨hprint, _, hfound, mem_type_flags.2
        (.inr ⟨_, hproof, _, htype, _, hregions, _, hspan, rfl⟩)⟩)

/-! ## How a check runs -/

/-- The compile with more flags recorded. -/
def recording (compile : Compile σ π) (flags : List Flag) : Compile σ π :=
  { compile with product := { compile.product with
    diagnostics := compile.product.diagnostics.addAll flags } }

theorem recording_append (compile : Compile σ π) (first second : List Flag) :
    recording compile (first ++ second) = recording (recording compile first) second := by
  simp only [recording, Diagnostics.add_all_append]

/-- The proofs of a pattern are found without a change. -/
theorem run_proofs_of {pattern : String} {found : Enumeration} {compile : Compile σ π}
    (h : outcome.enumerate pattern 1 = .ok found) :
    (proofsOf outcome pattern).run setup compile = (.ok found, compile) := by
  rw [proofsOf, h]
  rfl

/-- When no search fails, the flags for all kinds of errors are recorded. -/
theorem run_record_errors {compile : Compile σ π}
    (h : ∀ pattern ∈ patterns, (outcome.enumerate pattern.pattern 1).isOk = true) :
    (recordErrors outcome root patterns).run setup compile =
      (.ok (), recording compile (patterns.flatMap (flagsUnder outcome root))) := by
  induction patterns generalizing compile with
  | nil => rfl
  | cons pattern rest ih =>
    obtain ⟨hpattern, hrest⟩ := List.forall_mem_cons.1 h
    cases hfound : outcome.enumerate pattern.pattern 1 with
    | error error =>
      rw [hfound] at hpattern
      contradiction
    | ok found =>
      have hflags : flagsUnder outcome root pattern = errorFlags pattern root found := by
        rw [flagsUnder, hfound]
      simp only [recordErrors, run_bind, run_proofs_of hfound, run_add_flags]
      rw [ih hrest, List.flatMap_cons, hflags, recording_append]
      rfl

/-- Whether a check passes that was answered with `outcome`, given whether errors are recorded. -/
def verdict (outcome : QueryOutcome) (stage : Stage) (hasErrors : Bool) : Except Failure Unit :=
  if outcome.conclusion ≠ .holds ∨ hasErrors = true then .error (.phase "check")
  else ((stage.advance .checked).mapError .stage).map fun _ => ()

/-- At its end, a check goes by the conclusion and by whether errors are recorded. -/
theorem run_conclude (compile : Compile σ π) :
    ∃ after, Action.run (do
        if outcome.conclusion ≠ .holds ∨ (← Action.product).diagnostics.hasErrors then
          Action.fail (.phase "check")
        Action.advance .checked : Action σ π Unit) setup compile =
      (verdict outcome compile.product.stage compile.product.diagnostics.hasErrors, after) ∧
        after.product.diagnostics = compile.product.diagnostics := by
  simp only [run_bind, run_product, verdict]
  split
  · exact ⟨compile, rfl, rfl⟩
  · unfold Action.advance
    simp only [run_bind, run_product]
    cases compile.product.stage.advance .checked with
    | error error => exact ⟨compile, rfl, rfl⟩
    | ok next => exact ⟨_, rfl, rfl⟩

/-- A check all of whose searches are carried out records its flags and goes by them. -/
theorem run_check_with {compile : Compile σ π} (hroot : compile.product.root = some root)
    (hanswer : (setup.engine.query root compile.product.rootModule
      [compile.product.rootModule ++ ".requires"] compile.world.engine).1 = .ok outcome)
    (hsearches : ∀ pattern ∈ searches patterns setup.options.printTypes,
      (outcome.enumerate pattern 1).isOk = true) :
    let diagnostics := compile.product.diagnostics.addAll
      (flagsOfCheck outcome root patterns setup.options.printTypes)
    ∃ after, (runCheckWith patterns).run setup compile =
        (verdict outcome compile.product.stage diagnostics.hasErrors, after) ∧
      after.product.diagnostics = diagnostics := by
  intro diagnostics
  have herrors : ∀ pattern ∈ patterns, (outcome.enumerate pattern.pattern 1).isOk = true :=
    fun pattern hpattern => hsearches _ (List.mem_append_left _ (List.mem_map_of_mem hpattern))
  simp only [runCheckWith, run_bind, run_read, run_root, hroot, run_product, run_ask, hanswer,
    Except.mapError, run_add_flags, run_record_errors herrors]
  have hdiagnostics : diagnostics = ((compile.product.diagnostics.addAll outcome.flags).addAll
      (patterns.flatMap (flagsUnder outcome root))).addAll
        (flagsOfTypes outcome setup.options.printTypes) := by
    simp only [diagnostics, flagsOfCheck, Diagnostics.add_all_append]
  split
  · rename_i hprint
    cases hfound : outcome.enumerate typePattern 1 with
    | error error =>
      have hcarried := hsearches typePattern (by simp [searches, hprint])
      rw [hfound] at hcarried
      contradiction
    | ok found =>
      have hflags : flagsOfTypes outcome setup.options.printTypes = typeFlags found := by
        rw [flagsOfTypes, if_pos hprint, hfound]
      simp only [run_bind, run_proofs_of hfound, run_add_flags]
      rw [hdiagnostics, hflags]
      exact run_conclude _
  · rename_i hprint
    have hflags : flagsOfTypes outcome setup.options.printTypes = [] := by
      rw [flagsOfTypes, if_neg hprint]
    rw [hdiagnostics, hflags]
    exact run_conclude _

/-! ## The order of the searches -/

/-- A collection is canonical for all lists with the same flags. -/
theorem is_canonical_congr {first second : List Flag} {diagnostics : Diagnostics}
    (h : Diagnostics.IsCanonical first diagnostics) (hsame : ∀ flag, flag ∈ first ↔ flag ∈ second) :
    Diagnostics.IsCanonical second diagnostics where
  ascending := h.ascending
  sound held hheld := (hsame held).1 (h.sound held hheld)
  once flag hflag := h.once flag ((hsame flag).2 hflag)
  refuses := h.refuses

/-- Whether there are errors among recorded flags does not depend on their order. -/
theorem has_errors_congr {diagnostics : Diagnostics} {first second : List Flag}
    (hsame : ∀ flag, flag ∈ first ↔ flag ∈ second) :
    (diagnostics.addAll first).hasErrors = (diagnostics.addAll second).hasErrors := by
  rw [Bool.eq_iff_iff, Diagnostics.has_errors_add_all, Diagnostics.has_errors_add_all]
  simp only [hsame]

/-- Every kind of error is reported at the regions of an argument. -/
theorem patterns_located : ∀ pattern ∈ errorPatterns, pattern.location.isSome = true := by
  decide

/-- A check that looks for the kinds of errors in another order ends with the same verdict, and what
it has recorded is equal flag by flag. Either way, what is recorded in the end is the set of what
was recorded before and of the findings for the answer of the engine. -/
theorem findings_are_independent_of_order (compile : Compile σ π) {recorded : List Flag}
    (hrecorded : compile.product.diagnostics = Diagnostics.empty.addAll recorded)
    (hroot : compile.product.root = some root)
    (hanswer : (setup.engine.query root compile.product.rootModule
      [compile.product.rootModule ++ ".requires"] compile.world.engine).1 = .ok outcome)
    (hsearches : ∀ pattern ∈ searches errorPatterns setup.options.printTypes,
      (outcome.enumerate pattern 1).isOk = true)
    (hpatterns : patterns.Perm errorPatterns) :
    ∃ result after after',
      check.run.run setup compile = (result, after) ∧
      (runCheckWith patterns).run setup compile = (result, after') ∧
      List.Forall₂ (fun a b => (a == b) = true) after.product.diagnostics.flags
        after'.product.diagnostics.flags ∧
      ∃ findings,
        (∀ flag, flag ∈ findings ↔
          flag ∈ recorded ∨ Warrants outcome errorPatterns setup.options.printTypes flag) ∧
        Diagnostics.IsCanonical findings after.product.diagnostics ∧
        Diagnostics.IsCanonical findings after'.product.diagnostics := by
  -- The searches are the same, and so is what they find.
  have hsearches' : ∀ pattern ∈ searches patterns setup.options.printTypes,
      (outcome.enumerate pattern 1).isOk = true := fun pattern hpattern =>
    hsearches pattern (((hpatterns.map _).append_right _).subset hpattern)
  have hfindings (flag : Flag) :
      flag ∈ flagsOfCheck outcome root errorPatterns setup.options.printTypes ↔
        flag ∈ flagsOfCheck outcome root patterns setup.options.printTypes := by
    have hlocated : ∀ pattern ∈ patterns, pattern.location.isSome = true :=
      fun pattern hpattern => patterns_located pattern (hpatterns.subset hpattern)
    rw [mem_flags_of_check patterns_located, mem_flags_of_check hlocated]
    exact ⟨fun h => h.of_subset hpatterns.symm.subset, fun h => h.of_subset hpatterns.subset⟩
  obtain ⟨after, hrun, hafter⟩ := run_check_with hroot hanswer hsearches
  obtain ⟨after', hrun', hafter'⟩ := run_check_with hroot hanswer hsearches'
  rw [← has_errors_congr hfindings] at hrun'
  -- What was recorded before and the findings were all recorded in an empty collection.
  rw [hrecorded, ← Diagnostics.add_all_append] at hafter hafter'
  have hcanonical : Diagnostics.IsCanonical
      (recorded ++ flagsOfCheck outcome root errorPatterns setup.options.printTypes)
      after.product.diagnostics := hafter ▸ Diagnostics.is_canonical_add_all _
  have hcanonical' : Diagnostics.IsCanonical
      (recorded ++ flagsOfCheck outcome root errorPatterns setup.options.printTypes)
      after'.product.diagnostics := by
    refine is_canonical_congr (hafter' ▸ Diagnostics.is_canonical_add_all _) fun flag => ?_
    rw [List.mem_append, List.mem_append, hfindings]
  refine ⟨_, after, after', hrun, hrun', ?_, _, fun flag => ?_, hcanonical, hcanonical'⟩
  · refine hcanonical.ascending.forall_same hcanonical'.ascending fun flag => ?_
    rw [hafter, hafter', Diagnostics.holds_add_all, Diagnostics.holds_add_all]
    simp only [List.mem_append, hfindings]
  · rw [List.mem_append, mem_flags_of_check patterns_located]

/-- A warning and the error were recorded before, and the error is found again, be it looked for in
the usual order or in the reversed one. -/
theorem findings_are_independent_of_reversed_order :
    let root := SingleMachine.root "main.p"
    let locators := [[⟨1, 1, 1, 9, some root⟩], [⟨1, 1, 1, 9, some root⟩, ⟨2, 5, 2, 9, some root⟩]]
    let outcome := Memory.answer (sendingVerdict locators)
    let compiler := SingleMachine.compiler (sendingEngine locators)
    let setup := compiler.setup { Options.default with printTypes := true } (.ofString "main.p")
    let recorded := [⟨.warning, .unknown, "unused event", .plain, none⟩,
      flagAt .error "pure function sends" .typeError ⟨2, 5, 2, 9, some root⟩]
    let compile := { (SingleMachine.session "main.p" (emptyModule root)).begin with
      product := { Product.none with
        stage := .modelInstalled, root := some root, rootModule := "Main",
        diagnostics := Diagnostics.empty.addAll recorded } }
    errorPatterns.reverse.Perm errorPatterns ∧ ∃ result after after',
      check.run.run setup compile = (result, after) ∧
      (runCheckWith errorPatterns.reverse).run setup compile = (result, after') ∧
      List.Forall₂ (fun a b => (a == b) = true) after.product.diagnostics.flags
        after'.product.diagnostics.flags ∧
      ∃ findings,
        (∀ flag, flag ∈ findings ↔ flag ∈ recorded ∨ Warrants outcome errorPatterns true flag) ∧
        Diagnostics.IsCanonical findings after.product.diagnostics ∧
        Diagnostics.IsCanonical findings after'.product.diagnostics := by
  intro root locators outcome compiler setup recorded compile
  have hanswer : (setup.engine.query root compile.product.rootModule
      [compile.product.rootModule ++ ".requires"] compile.world.engine).1 = .ok outcome :=
    query_empty_module locators root _
  have hsearches : ∀ pattern ∈ searches errorPatterns true,
      (outcome.enumerate pattern 1).isOk = true := by decide +kernel
  have hpatterns : errorPatterns.reverse.Perm errorPatterns := List.reverse_perm _
  exact ⟨hpatterns,
    findings_are_independent_of_order compile rfl rfl hanswer hsearches hpatterns⟩

end MachineCompiler.Phase
