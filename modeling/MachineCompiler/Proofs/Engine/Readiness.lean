import MachineCompiler.Proofs.Engine.Exchanges
import MachineCompiler.Proofs.Engine.Ledger

/-!
# Requests that an engine is ready for

What the engine in memory expects of its user: a program is installed under a new name and removed
under the name of an installed one, a module is asked about in the program that has it, a transform
is applied where it is installed and to modules that are, and a program is rendered when a renderer
was chosen for it. A request that the engine is ready for is carried out, unless it is refused or
asks for a transform that the rules do not have.
-/

namespace MachineCompiler.Engine

variable {rules : Rules} {memory : Memory} {name : ProgramName} {module : String}

/-- The reference says that its module lives in the program of the name. -/
def ModuleRef.IsAt (reference : ModuleRef) (name : ProgramName) : Prop :=
  ∃ location, reference.location = some location ∧
    ∃ place, ProgramName.ofPath (Path.ofString location) = .ok place ∧ (place == name) = true

namespace Memory

/-- The memory is ready for the request. -/
def Ready (memory : Memory) : Request → Prop
  | .install program => memory.isInstalled program.name = false
  | .uninstall names => ∀ name ∈ names, memory.isInstalled name = true
  | .query name module _ => ∃ model, memory.modelOf name module = .ok model
  | .apply step =>
    (∃ place, step.transform.IsAt place ∧ memory.isInstalled place = true) ∧
      ∀ reference, .module reference ∈ step.arguments →
        ∃ place model, reference.IsAt place ∧ memory.modelOf place reference.name = .ok model
  | .render name module =>
    (∃ program, memory.program? name = some program ∧
      (program.setting? activeRenderer).isSome = true) ∧
        ∃ model, memory.modelOf name module = .ok model

/-- The result that says that no renderer was chosen. -/
def unconfigured (name : ProgramName) : RenderResult :=
  .failure [.error ("no renderer configured for '" ++ name.shown ++ "'") .plain]

end Memory

/-- The answer does not complain about the request: what was to be installed or removed was, the
proofs of all patterns can be found, a renderer was chosen, and an operation has failed only because
it was refused, or because the rules have no transform of the name. -/
def Answer.Fair (patterns : List String) : Answer → Prop
  | .installed outcome | .uninstalled outcome => outcome.succeeded = true
  | .queried outcome => ∀ pattern ∈ patterns, (outcome.enumerate pattern 1).isOk = true
  | .applied _ => True
  | .rendered result => ∀ name, result ≠ Memory.unconfigured name
  | .failed verb error => error = .notStarted verb ∨
    verb = .apply ∧ ∃ transform, error = .failed ("unknown transform '" ++ transform ++ "'")

/-- The engine was ready for the request and did not complain about it. -/
def Exchange.Proper (patterns : List String) (exchange : Exchange Memory) : Prop :=
  exchange.state.Ready exchange.request ∧ exchange.answer.Fair patterns

/-! ## Finding models -/

namespace Memory

/-- A program is installed under all spellings of its name. -/
theorem is_installed_congr {other : ProgramName} (h : (name == other) = true) :
    memory.isInstalled name = memory.isInstalled other := by
  unfold isInstalled
  exact congrArg memory.installed.any (funext fun _ => BEq.congr_right h)

/-- A model is found in a program that has it. -/
theorem model_of_ok_iff {model : Model} :
    memory.modelOf name module = .ok model ↔
      ∃ program, memory.program? name = some program ∧ program.model? module = some model := by
  unfold modelOf
  cases memory.program? name with
  | none => simp
  | some program => cases hmodel : program.model? module <;> simp [hmodel]

/-- Only the programs matter. -/
theorem model_of_installed_eq {other : Memory} (h : other.installed = memory.installed)
    (name : ProgramName) (module : String) : other.modelOf name module = memory.modelOf name module := by
  simp only [modelOf, program?, h]

/-- A model of an installed program is still found when another program was installed. -/
theorem model_of_append {other : Memory} {program : Program} {model : Model}
    (hadded : other.installed = memory.installed ++ [program])
    (h : memory.modelOf name module = .ok model) : other.modelOf name module = .ok model := by
  obtain ⟨found, hfound, hmodel⟩ := model_of_ok_iff.1 h
  refine model_of_ok_iff.2 ⟨found, ?_, hmodel⟩
  unfold program? at hfound ⊢
  rw [hadded, List.find?_append, hfound, Option.some_or]

/-- The program that was just installed is found. -/
theorem program_of_append {other : Memory} {program : Program}
    (hadded : other.installed = memory.installed ++ [program])
    (hnew : memory.isInstalled program.name = false) :
    other.program? program.name = some program := by
  have hnone : memory.installed.find? (fun held => held.name == program.name) = none := by
    rw [List.find?_eq_none]
    exact fun held hheld hsame =>
      Bool.eq_false_iff.1 hnew (List.any_eq_true.2 ⟨held, hheld, hsame⟩)
  simp [program?, hadded, hnone]

/-- A model of a program is still found when other programs were removed. -/
theorem model_of_without {other : Memory} {names : List ProgramName} {model : Model}
    (hremoved : other.installed = without memory.installed names)
    (hkept : names.any (name == ·) = false)
    (h : memory.modelOf name module = .ok model) : other.modelOf name module = .ok model := by
  obtain ⟨found, hfound, hmodel⟩ := model_of_ok_iff.1 h
  refine model_of_ok_iff.2 ⟨found, ?_, hmodel⟩
  have hstays (held : Program) (hname : (held.name == name) = true) :
      names.any (held.name == ·) = false :=
    (congrArg names.any (funext fun _ => BEq.congr_left hname)).trans hkept
  unfold program? at hfound ⊢
  rw [hremoved, without, List.find?_filter, ← hfound]
  refine congrArg (List.find? · memory.installed) (funext fun held => ?_)
  cases hname : held.name == name with
  | false => simp
  | true => simp [hstays held hname]

/-- A model in an installed program is found by its name alone. -/
theorem find_model_of_model_of {model : Model} (h : memory.modelOf name module = .ok model) :
    ∃ found, memory.findModel? module = some found := by
  obtain ⟨program, hprogram, hmodel⟩ := model_of_ok_iff.1 h
  refine Option.isSome_iff_exists.1 (List.findSome?_isSome_iff.2 ?_)
  exact ⟨program, List.mem_of_find?_eq_some hprogram, by rw [hmodel]; rfl⟩

/-! ## Requests and their answers -/

/-- A program with a new name is installed, unless that is refused. -/
theorem install_ready {program : Program} (h : memory.Ready (.install program)) :
    (inMemory rules).install program memory =
      if memory.refused = some .install then (.error (.notStarted .install), memory)
      else (.ok .success, { memory.record (.install program.name) with
        installed := memory.installed ++ [program] }) := by
  have hnew : (memory.record (.install program.name)).isInstalled program.name = false := h
  simp only [inMemory, start, installProgram, hnew, Bool.false_eq_true, if_false]
  rfl

/-- Installed programs are removed, unless that is refused. -/
theorem uninstall_ready {names : List ProgramName} (h : memory.Ready (.uninstall names)) :
    (inMemory rules).uninstall names memory =
      if memory.refused = some .uninstall then (.error (.notStarted .uninstall), memory)
      else (.ok .success, { memory.record (.uninstall names) with
        installed := without memory.installed names }) := by
  have hnone : names.find? (fun name => !(memory.record (.uninstall names)).isInstalled name) =
      none := by
    rw [List.find?_eq_none]
    intro name hname
    have hheld : (memory.record (.uninstall names)).isInstalled name = true := h name hname
    simp [hheld]
  simp only [inMemory, start, uninstallPrograms, hnone]
  rfl

/-- The arguments of a step can be read when its modules are found. -/
theorem read_arguments_ready {arguments : List Argument}
    (h : ∀ reference, .module reference ∈ arguments →
      ∃ model, memory.findModel? reference.name = some model) :
    ∃ read, memory.readArguments arguments = .ok read := by
  induction arguments with
  | nil => exact ⟨_, rfl⟩
  | cons argument rest ih =>
    obtain ⟨read, hread⟩ := ih fun reference hreference =>
      h reference (List.mem_cons_of_mem _ hreference)
    cases argument with
    | module reference =>
      obtain ⟨model, hmodel⟩ := h reference List.mem_cons_self
      exact ⟨_, by simp only [readArguments, hmodel, hread]; rfl⟩
    | constant value => exact ⟨_, by simp only [readArguments, hread]; rfl⟩

/-- A transform that is there is not missing. -/
theorem not_missing {step : Step} {place : ProgramName} (h : step.transform.IsAt place)
    (hheld : memory.isInstalled place = true) : memory.missingTransform? step = none := by
  obtain ⟨location, hlocation, name, hname, hsame⟩ := h
  simp only [missingTransform?, hlocation, hname, is_installed_congr hsame, hheld, if_true]

/-- A step that the memory is ready for makes models, unless its transform is unknown. -/
theorem run_step_ready (rules : Rules) {step : Step} (h : memory.Ready (.apply step)) :
    memory.runStep rules step = .error (.failed ("unknown transform '" ++ step.transform.name ++ "'"))
      ∨ ∃ models : List Model,
        memory.runStep rules step = .ok (models.foldl ApplyResult.withOutput .empty) := by
  obtain ⟨⟨place, hplace, hheld⟩, harguments⟩ := h
  obtain ⟨read, hread⟩ := read_arguments_ready fun reference hreference => by
    obtain ⟨place, model, -, hmodel⟩ := harguments reference hreference
    exact find_model_of_model_of hmodel
  unfold runStep
  rw [not_missing hplace hheld]
  dsimp only
  split
  · exact .inl rfl
  · rw [hread]
    exact .inr ⟨_, rfl⟩

/-- Rendering a program with a renderer says nothing about a missing one: the messages of facts are
about the program, and that message is about none. -/
theorem render_module_ready (h : memory.Ready (.render name module)) :
    ∃ result, memory.renderModule name module = .ok result ∧
      ∀ other, result ≠ unconfigured other := by
  obtain ⟨⟨program, hprogram, hsetting⟩, model, hmodel⟩ := h
  obtain ⟨renderer, hrenderer⟩ := Option.isSome_iff_exists.1 hsetting
  have hconfigured : (memory.program? name).bind (·.setting? activeRenderer) = some renderer := by
    rw [hprogram]
    exact hrenderer
  simp only [renderModule, hconfigured, hmodel]
  split
  · exact ⟨_, rfl, fun other hother => by cases hother⟩
  · refine ⟨_, rfl, fun other hother => ?_⟩
    have hnone : none ∈ (unconfigured other).flags.map Flag.program := List.mem_cons_self
    rw [← hother] at hnone
    obtain ⟨flag, hflag, hprogram⟩ := List.mem_map.1 hnone
    obtain ⟨message, -, rfl⟩ := List.mem_map.1 hflag
    cases hprogram

/-- An operation that is refused says so. -/
theorem fair_of_start {α : Type} {verb : Verb} {call : Call} {keep : α → Answer}
    {operation : Memory → Except Error α × Memory} {patterns : List String}
    (h : (Answer.ofResult verb keep (operation (memory.record call)).1).Fair patterns) :
    (Answer.ofResult verb keep (start verb call operation memory).1).Fair patterns := by
  unfold start
  split
  · exact .inl rfl
  · exact h

/-- A module that is there can be asked about. -/
theorem query_fair {goals patterns : List String} (h : memory.Ready (.query name module goals))
    (hpatterns : ∀ pattern ∈ patterns, (Pattern.read pattern).isOk = true) :
    (Answer.ofResult .query .queried ((inMemory rules).query name module goals memory).1).Fair
      patterns := by
  obtain ⟨model, hmodel⟩ := h
  have hfound : (memory.record (.query name module)).modelOf name module = .ok model := hmodel
  refine fair_of_start ?_
  rw [hfound]
  intro pattern hpattern
  show (enumerate (rules.check model).proofs pattern 1).isOk = true
  have hread := hpatterns pattern hpattern
  unfold enumerate
  split
  · rename_i hread'
    rw [hread'] at hread
    contradiction
  · rfl

/-- A step that the memory is ready for is carried out, unless its transform is unknown. -/
theorem apply_fair {step : Step} {patterns : List String} (h : memory.Ready (.apply step)) :
    (Answer.ofResult .apply .applied ((inMemory rules).apply step memory).1).Fair patterns := by
  have hready : (memory.record (.apply step.transform.name)).Ready (.apply step) := h
  refine fair_of_start ?_
  rcases run_step_ready rules hready with hunknown | ⟨models, hmade⟩
  · rw [hunknown]
    exact .inr ⟨rfl, _, rfl⟩
  · rw [hmade]
    trivial

/-- A program with a renderer is rendered. -/
theorem render_fair {patterns : List String} (h : memory.Ready (.render name module)) :
    (Answer.ofResult .render .rendered ((inMemory rules).render name module memory).1).Fair
      patterns := by
  have hready : (memory.record (.render name module)).Ready (.render name module) := h
  obtain ⟨result, hresult, hconfigured⟩ := render_module_ready hready
  refine fair_of_start ?_
  rw [hresult]
  exact hconfigured

end Memory

/-! ## The models that a transform makes -/

namespace ApplyResult

/-- Models stand under their own names. -/
def Named (result : ApplyResult) : Prop :=
  ∀ entry ∈ result.outputs, entry.2.name = entry.1

theorem named_place {model : Model} {outputs : List (String × Model)}
    (h : ∀ entry ∈ outputs, entry.2.name = entry.1) :
    ∀ entry ∈ place model outputs, entry.2.name = entry.1 := by
  induction outputs with
  | nil => exact List.forall_mem_singleton.2 rfl
  | cons first rest ih =>
    obtain ⟨hfirst, hrest⟩ := List.forall_mem_cons.1 h
    unfold place
    split
    · rename_i hsame
      exact List.forall_mem_cons.2 ⟨hsame.symm, hrest⟩
    · exact List.forall_mem_cons.2 ⟨hfirst, ih hrest⟩

theorem named_with_outputs (models : List Model) {result : ApplyResult} (h : result.Named) :
    (models.foldl withOutput result).Named := by
  induction models generalizing result with
  | nil => exact h
  | cons model rest ih => exact ih (named_place h)

/-- What is taken out of a result is a program with one model, which has the name asked for. -/
theorem Named.extract {result : ApplyResult} (h : result.Named) {module start : String}
    {name : ProgramName} {program : Program}
    (hextract : result.extract? module name start = some program) :
    program.name = name ∧ ∃ model, program.models = [model] ∧ model.name = module := by
  obtain ⟨model, hlookup, rfl⟩ := Option.map_eq_some_iff.1 hextract
  obtain ⟨before, after, houtputs, -⟩ := List.lookup_eq_some_iff.1 hlookup
  exact ⟨rfl, _, rfl, h (module, model) (by rw [houtputs]; simp)⟩

end ApplyResult

/-- The models that the engine in memory makes stand under their own names. -/
theorem named_of_apply {step : Step} {result : ApplyResult}
    (h : ((inMemory rules).apply step memory).1 = .ok result) : result.Named := by
  simp only [inMemory, Memory.start] at h
  split at h
  · contradiction
  · simp only [Memory.runStep] at h
    repeat' split at h
    all_goals cases h
    exact ApplyResult.named_with_outputs _ (List.forall_mem_nil _)

/-! ## The ledger of an engine that is logged -/

variable {σ : Type}

/-- The ledger of an engine whose exchanges are logged: that of the engine itself. -/
def Ledger.logged (ledger : Ledger σ) : Ledger (σ × List (Exchange σ)) where
  installed state := ledger.installed state.1
  sound state := ledger.sound state.1

/-- Logging does not get in the way of an engine that keeps a ledger. -/
theorem logged_keeps_to {engine : ModelEngine σ} {ledger : Ledger σ} (h : engine.KeepsTo ledger) :
    (logged engine).KeepsTo ledger.logged where
  install program state := h.install program state.1
  uninstall names state := h.uninstall names state.1
  query name module goals state := h.query name module goals state.1
  apply step state := h.apply step state.1
  render name module state := h.render name module state.1

end MachineCompiler.Engine
