import MachineCompiler.Engine.InMemory
import MachineCompiler.Engine.Interference
import MachineCompiler.Proofs.ProgramName.Identity

/-!
# Engines that keep a ledger

What the compiler relies on when it keeps track of its programs: an engine has a list of installed
programs, an install that is carried out adds a program whose name is new to the list, an uninstall
that is carried out removes all programs of the given names, and nothing else changes the list. The
engine in memory is of this kind, and stays so when its answers are interfered with, as long as no
install or uninstall is reported that was not carried out.
-/

namespace MachineCompiler

open Engine

namespace Engine

/-- An install or uninstall was carried out. -/
def carriedOut : Except Error InstallOutcome → Bool
  | .ok outcome => outcome.succeeded
  | .error _ => false

/-- One of the programs has the name. -/
def holds (programs : List Program) (name : ProgramName) : Bool :=
  programs.any fun program => program.name == name

/-- The programs without those that have one of the names. -/
def without (programs : List Program) (names : List ProgramName) : List Program :=
  programs.filter fun program => !names.any (program.name == ·)

theorem holds_append {programs : List Program} {program : Program} {name : ProgramName} :
    holds (programs ++ [program]) name = true ↔
      holds programs name = true ∨ (program.name == name) = true := by
  simp [holds]

/-- What is removed under one spelling is removed under every other one. -/
theorem holds_without {programs : List Program} {names : List ProgramName} {name : ProgramName} :
    holds (without programs names) name = true ↔
      holds programs name = true ∧ names.any (name == ·) = false := by
  -- Names are compared up to their spelling, so membership in the removed names has to respect it.
  have hcongr {program : Program} (heq : (program.name == name) = true) :
      (names.any (program.name == ·)) = names.any (name == ·) :=
    congrArg names.any (funext fun _ => BEq.congr_left heq)
  simp only [holds, without, List.any_eq_true, List.mem_filter, Bool.not_eq_true']
  constructor
  · rintro ⟨program, ⟨hmem, hkept⟩, heq⟩
    exact ⟨⟨program, hmem, heq⟩, hcongr heq ▸ hkept⟩
  · rintro ⟨⟨program, hmem, heq⟩, hkept⟩
    exact ⟨program, ⟨hmem, (hcongr heq).trans hkept⟩, heq⟩

/-- How the installed programs are read off the state of an engine, and the states in which it can
be trusted with them. -/
structure Ledger (σ : Type) where
  installed : σ → List Program
  sound : σ → Prop

/-- The move leaves the installed programs as they are, and the engine can still be trusted. -/
def Ledger.Same {σ : Type} (ledger : Ledger σ) (before after : σ) : Prop :=
  ledger.sound after ∧ ledger.installed after = ledger.installed before

/-- The operation changes the installed programs as described when it is carried out, and leaves
them as they are when it is not. -/
def Ledger.Settles {σ : Type} (ledger : Ledger σ) (change : List Program → List Program → Prop)
    (operation : σ → Except Error InstallOutcome × σ) : Prop :=
  ∀ state, ledger.sound state →
    if carriedOut (operation state).1 then
      ledger.sound (operation state).2
        ∧ change (ledger.installed state) (ledger.installed (operation state).2)
    else ledger.Same state (operation state).2

end Engine

variable {σ : Type}

/-- The engine changes its ledger by installs and uninstalls only, and tells when it does. -/
structure ModelEngine.KeepsTo (engine : ModelEngine σ) (ledger : Ledger σ) : Prop where
  /-- An install is carried out for a new name only, and adds the program at the end. -/
  install : ∀ program, ledger.Settles
    (fun before after => holds before program.name = false ∧ after = before ++ [program])
    (engine.install program)
  /-- An uninstall removes the programs of all names or nothing. -/
  uninstall : ∀ names, ledger.Settles (fun before after => after = without before names)
    (engine.uninstall names)
  query : ∀ name module goals state, ledger.sound state →
    ledger.Same state (engine.query name module goals state).2
  apply : ∀ step state, ledger.sound state → ledger.Same state (engine.apply step state).2
  render : ∀ name module state, ledger.sound state →
    ledger.Same state (engine.render name module state).2

namespace Engine

/-! ## The engine in memory -/

/-- The ledger of the engine in memory, which can always be trusted. -/
def Memory.ledger : Ledger Memory := ⟨Memory.installed, fun _ => True⟩

/-- An operation that changes no more than the list of calls leaves the installed programs. -/
theorem Memory.installed_start {α : Type} {verb : Verb} {call : Call}
    {operation : Memory → Except Error α × Memory} (memory : Memory)
    (h : ∀ memory, (operation memory).2.installed = memory.installed) :
    (Memory.start verb call operation memory).2.installed = memory.installed := by
  unfold Memory.start
  split
  · rfl
  · rw [h]
    rfl

/-- The engine in memory keeps to its list of installed programs, whatever its rules are. -/
theorem in_memory_keeps_to (rules : Rules) : (inMemory rules).KeepsTo Memory.ledger where
  install program memory _ := by
    simp only [inMemory, Memory.start]
    split
    · exact ⟨trivial, rfl⟩
    · cases hheld : (memory.record (.install program.name)).isInstalled program.name
      · simp only [Memory.installProgram, hheld, carriedOut]
        exact ⟨trivial, hheld, rfl⟩
      · simp only [Memory.installProgram, hheld, carriedOut]
        exact ⟨trivial, rfl⟩
  uninstall names memory _ := by
    simp only [inMemory, Memory.start]
    split
    · exact ⟨trivial, rfl⟩
    · cases hmissing : names.find? fun name =>
        !(memory.record (.uninstall names)).isInstalled name
      · simp only [Memory.uninstallPrograms, hmissing, carriedOut]
        exact ⟨trivial, rfl⟩
      · simp only [Memory.uninstallPrograms, hmissing, carriedOut]
        exact ⟨trivial, rfl⟩
  query _ _ _ memory _ := ⟨trivial, memory.installed_start fun _ => rfl⟩
  apply _ memory _ := ⟨trivial, memory.installed_start fun _ => rfl⟩
  render _ _ memory _ := ⟨trivial, memory.installed_start fun _ => rfl⟩

/-! ## Interference -/

/-- The rule reports no install or uninstall that was not carried out. -/
def Interference.Harmless (rule : Interference) : Prop :=
  rule.verb = .install ∨ rule.verb = .uninstall → rule.error = none →
    rule.outcome.succeeded = false

/-- The ledger of an engine under interference: that of the engine itself, which can be trusted as
long as all rules are harmless. -/
def Ledger.interfered (ledger : Ledger σ) : Ledger (Interfered σ) where
  installed state := ledger.installed state.engine
  sound state := ledger.sound state.engine ∧ ∀ rule ∈ state.rules, rule.Harmless

/-- What becomes of a call under rules: it fails before the engine is asked, or it is answered in
the place of the engine, or the engine is asked. -/
theorem Interfered.call_cases {α : Type} (verb : Verb) (replaced? : Interference → Option α)
    (changed : Interference → α → α) (operation : σ → Except Error α × σ)
    (state : Interfered σ) :
    ∃ answer after, call verb replaced? changed operation state = (answer, after) ∧
      after.rules = state.rules ∧
      ((∃ reason, answer = .error (.failed reason) ∧ after.engine = state.engine) ∨
        (∃ rule ∈ state.rules, rule.verb = verb ∧ rule.error = none ∧
          ∃ value, replaced? rule = some value ∧ answer = .ok value ∧
            after.engine = state.engine) ∨
        (answer = (operation state.engine).1 ∧ after.engine = (operation state.engine).2) ∨
        ∃ rule, replaced? rule = none ∧ answer = (operation state.engine).1.map (changed rule) ∧
          after.engine = (operation state.engine).2) := by
  refine ⟨_, _, rfl, ?_⟩
  split
  · exact ⟨rfl, .inr (.inr (.inl ⟨rfl, rfl⟩))⟩
  · rename_i rule hrule
    have hmem := List.mem_of_find?_eq_some hrule
    have hverb : rule.verb = verb := by
      have := List.find?_some hrule
      simp only [Bool.and_eq_true, beq_iff_eq] at this
      exact this.1
    split
    · exact ⟨rfl, .inl ⟨_, rfl, rfl⟩⟩
    · rename_i value herror hvalue
      exact ⟨rfl, .inr (.inl ⟨rule, hmem, hverb, herror, value, hvalue, rfl, rfl⟩)⟩
    · rename_i hvalue
      exact ⟨rfl, .inr (.inr (.inr ⟨rule, hvalue, rfl, rfl⟩))⟩

/-- A call that is never answered in the place of the engine leaves the ledger to the engine. -/
theorem Interfered.call_same {α : Type} {ledger : Ledger σ} {verb : Verb}
    {changed : Interference → α → α} {operation : σ → Except Error α × σ} {state : Interfered σ}
    (h : ∀ state, ledger.sound state → ledger.Same state (operation state).2)
    (hsound : ledger.interfered.sound state) :
    ledger.interfered.Same state (call verb (fun _ => none) changed operation state).2 := by
  obtain ⟨answer, after, hcall, hrules, hcases⟩ :=
    call_cases verb (fun _ => none) changed operation state
  obtain ⟨hsound', hinstalled⟩ := h _ hsound.1
  rw [hcall]
  obtain ⟨_, _, hengine⟩ | ⟨_, _, _, _, _, hnone, _⟩ | ⟨_, hengine⟩ | ⟨_, _, _, hengine⟩ := hcases
  · exact ⟨⟨hengine ▸ hsound.1, hrules ▸ hsound.2⟩, congrArg ledger.installed hengine⟩
  · contradiction
  all_goals
    exact ⟨⟨hengine ▸ hsound', hrules ▸ hsound.2⟩,
      (congrArg ledger.installed hengine).trans hinstalled⟩

/-- An install or uninstall under harmless rules settles what it settles without them: it is
carried out only if the engine itself has carried it out. -/
theorem Interfered.call_settles {ledger : Ledger σ} {verb : Verb}
    {change : List Program → List Program → Prop}
    {operation : σ → Except Error InstallOutcome × σ}
    (hverb : verb = .install ∨ verb = .uninstall) (h : ledger.Settles change operation) :
    ledger.interfered.Settles change
      (call verb (fun rule => some rule.outcome) (fun _ => id) operation) := by
  intro state hsound
  obtain ⟨answer, after, hcall, hrules, hcases⟩ :=
    call_cases verb (fun rule => some rule.outcome) (fun _ => id) operation state
  have hrules' : ∀ rule ∈ after.rules, rule.Harmless := hrules ▸ hsound.2
  have hsame (hengine : after.engine = state.engine) : ledger.interfered.Same state after :=
    ⟨⟨hengine ▸ hsound.1, hrules'⟩, congrArg ledger.installed hengine⟩
  rw [hcall]
  obtain ⟨_, rfl, hengine⟩ | ⟨rule, hmem, rfl, herror, _, hvalue, rfl, hengine⟩ |
    ⟨rfl, hengine⟩ | ⟨_, hnone, _⟩ := hcases
  · exact hsame hengine
  -- Answered in the place of the engine: a harmless rule then reports a failure.
  · cases hvalue
    rw [show carriedOut (.ok rule.outcome) = false from hsound.2 rule hmem hverb herror]
    exact hsame hengine
  · have hasked := h state.engine hsound.1
    rw [← hengine] at hasked
    split at hasked
    · rw [if_pos ‹_›]
      exact ⟨⟨hasked.1, hrules'⟩, hasked.2⟩
    · rw [if_neg ‹_›]
      exact ⟨⟨hasked.1, hrules'⟩, hasked.2⟩
  · contradiction

/-- Harmless interference leaves an engine one that keeps a ledger. -/
theorem interfered_keeps_to {engine : ModelEngine σ} {ledger : Ledger σ}
    (h : engine.KeepsTo ledger) : (interfered engine).KeepsTo ledger.interfered where
  install program := Interfered.call_settles (.inl rfl) (h.install program)
  uninstall names := Interfered.call_settles (.inr rfl) (h.uninstall names)
  query name module goals _ hsound := Interfered.call_same (h.query name module goals) hsound
  apply step _ hsound := Interfered.call_same (h.apply step) hsound
  render name module _ hsound := Interfered.call_same (h.render name module) hsound

end Engine

end MachineCompiler
