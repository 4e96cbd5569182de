import MachineCompiler.Proofs.Compile.Evaluation
import MachineCompiler.Proofs.Compile.Parallel
import MachineCompiler.Proofs.Diagnostic.InferredTypes

/-!
# Compiles with the sound off

Some options only decide what a compile reports. `Compile.muted` forgets what they bear upon: the
messages, the clock, and the flags about inferred types. Two compiles under options that differ in
the reports only are run side by side here; `StaysAbreast` says of an action that it ends alike in
both, that what they share stays the same, and that both say the same.
-/

namespace MachineCompiler

variable {σ π α β : Type}

/-- The options with other reports: the times of phases, short names, and inferred types. -/
def Options.reporting (options : Options) (profile shortNames printTypes : Bool) : Options :=
  { options with profile, shortNames, printTypes }

/-- The setup with other reports. -/
def Setup.reporting (setup : Setup σ π) (profile shortNames printTypes : Bool) : Setup σ π :=
  { setup with options := setup.options.reporting profile shortNames printTypes }

/-- The world without its messages and its clock. -/
def World.muted (world : World σ π) : World σ π :=
  { world with transcript := [], clock := .still }

/-- The products without the flags about inferred types. -/
def Product.muted (product : Product) : Product :=
  { product with diagnostics := product.diagnostics.withoutTypes }

/-- The compile without its messages, its clock and its flags about inferred types. -/
def Compile.muted (compile : Compile σ π) : Compile σ π :=
  { compile with world := compile.world.muted, product := compile.product.muted }

/-- The session without its messages and its clock. -/
def Session.muted (session : Session σ π) : Session σ π :=
  { session with world := session.world.muted }

/-- The compile with other messages, another clock and other flags. -/
def Compile.sounding (compile : Compile σ π) (transcript : Transcript) (clock : Clock)
    (diagnostics : Diagnostics) : Compile σ π :=
  { compile with
    world := { compile.world with transcript, clock }
    product := { compile.product with diagnostics } }

/-- The compiles are the same when they are muted. -/
structure Level (first second : Compile σ π) : Prop where
  muted : first.muted = second.muted
  ascending : first.product.diagnostics.Ascending
  ascending' : second.product.diagnostics.Ascending

/-- The compiles are the same when they are muted, and have said the same since two transcripts. -/
structure Abreast (start start' : Transcript) (first second : Compile σ π) : Prop
    extends Level first second where
  transcripts : ∃ said, first.world.transcript = start ++ said ∧
    second.world.transcript = start' ++ said

section

variable {start start' : Transcript} {first second first' second' : Compile σ π}

/-- Compiles that are level differ in messages, clocks and flags only. -/
theorem Level.sounds (h : Level first second) :
    ∃ transcript clock diagnostics, second = first.sounding transcript clock diagnostics := by
  refine ⟨second.world.transcript, second.world.clock, second.product.diagnostics, ?_⟩
  obtain ⟨⟨_, _, _, _, _, _⟩, _, _, ⟨_, _, _, _, _, _, _⟩⟩ := first
  obtain ⟨⟨_, _, _, _, _, _⟩, _, _, ⟨_, _, _, _, _, _, _⟩⟩ := second
  have hmuted := h.muted
  simp only [Compile.muted, World.muted, Product.muted, Compile.mk.injEq, World.mk.injEq,
    Product.mk.injEq, true_and, and_true] at hmuted
  simp [Compile.sounding, hmuted]

theorem Level.has_errors (h : Level first second) :
    first.product.diagnostics.hasErrors = second.product.diagnostics.hasErrors := by
  have hflags : first.product.diagnostics.withoutTypes = second.product.diagnostics.withoutTypes :=
    congrArg (·.product.diagnostics) h.muted
  rw [← Diagnostics.has_errors_without_types, hflags, Diagnostics.has_errors_without_types]

/-- Compiles that sound like abreast ones and are otherwise the same are abreast. -/
theorem Abreast.sounding {transcript : Transcript} {clock : Clock} {diagnostics : Diagnostics}
    (h : Abreast start start' first (first.sounding transcript clock diagnostics))
    (hsounds : first'.product.diagnostics = first.product.diagnostics ∧
      first'.world.transcript = first.world.transcript) :
    Abreast start start' first' (first'.sounding transcript clock diagnostics) := by
  have hflags : first.product.diagnostics.withoutTypes = diagnostics.withoutTypes :=
    congrArg (·.product.diagnostics) h.muted
  exact {
    muted := by
      show Compile.mk _ _ _ (Product.mk _ _ _ _ _ _ _) = Compile.mk _ _ _ (Product.mk _ _ _ _ _ _ _)
      rw [hsounds.1, hflags]
      rfl
    ascending := by rw [hsounds.1]; exact h.ascending
    ascending' := h.ascending'
    transcripts := by rw [hsounds.2]; exact h.transcripts }

/-- Compiles that are level are abreast from now on. -/
theorem Level.abreast (h : Level first second) :
    Abreast first.world.transcript second.world.transcript first second :=
  { h with transcripts := ⟨[], (List.append_nil _).symm, (List.append_nil _).symm⟩ }

/-- A flag is recorded among the other flags of both compiles or of neither. -/
theorem Level.add_flag (h : Level first second) (flag : Flag) :
    Level
      { first with product := { first.product with
        diagnostics := first.product.diagnostics.add flag } }
      { second with product := { second.product with
        diagnostics := second.product.diagnostics.add flag } } := by
  refine { muted := ?_, ascending := h.ascending.add, ascending' := h.ascending'.add }
  have hmuted := h.muted
  simp only [Compile.muted, Product.muted, Compile.mk.injEq, Product.mk.injEq,
    h.ascending.without_types_add, h.ascending'.without_types_add] at hmuted ⊢
  rw [hmuted.2.2.2.1]
  exact ⟨hmuted.1, hmuted.2.1, hmuted.2.2.1, rfl, hmuted.2.2.2.2⟩

end

namespace Action

/-- From states with `P`, the action under one setup and the other one under the other setup end
alike, with `Q` or with `E`. -/
def Across (setup setup' : Setup σ π) (P : Compile σ π → Compile σ π → Prop)
    (action action' : Action σ π α) (Q : α → Compile σ π → Compile σ π → Prop)
    (E : Compile σ π → Compile σ π → Prop) : Prop :=
  ∀ first second, P first second →
    Together Q E (action.run setup first) (action'.run setup' second)

/-- The actions end alike under the two setups and keep compiles abreast. -/
def StaysAbreast (setup setup' : Setup σ π) (action action' : Action σ π α) : Prop :=
  ∀ start start', Across setup setup' (Abreast start start') action action'
    (fun _ => Abreast start start') (Abreast start start')

variable {setup setup' : Setup σ π} {P : Compile σ π → Compile σ π → Prop}
  {Q : α → Compile σ π → Compile σ π → Prop} {S : β → Compile σ π → Compile σ π → Prop}
  {E : Compile σ π → Compile σ π → Prop}

/-- Sequences are handled one pair of actions after the other. -/
theorem Across.bind {action action' : Action σ π α} {next next' : α → Action σ π β}
    (h : Across setup setup' P action action' Q E)
    (hnext : ∀ value, Across setup setup' (Q value) (next value) (next' value) S E) :
    Across setup setup' P (action >>= next) (action' >>= next') S E := by
  intro first second hP
  have hboth := h first second hP
  rw [run_bind, run_bind]
  generalize action.run setup first = outcome at hboth
  generalize action'.run setup' second = outcome' at hboth
  cases hboth with
  | value hQ => exact hnext _ _ _ hQ
  | failure hE => exact .failure hE

namespace StaysAbreast

theorem pure {value : α} : StaysAbreast setup setup' (pure value) (pure value) :=
  fun _ _ _ _ h => .value h

theorem fail {failure : Failure} :
    StaysAbreast setup setup' (Action.fail failure : Action σ π α) (Action.fail failure) :=
  fun _ _ _ _ h => .failure h

theorem bind {action action' : Action σ π α} {next next' : α → Action σ π β}
    (h : StaysAbreast setup setup' action action')
    (hnext : ∀ value, StaysAbreast setup setup' (next value) (next' value)) :
    StaysAbreast setup setup' (action >>= next) (action' >>= next') :=
  fun start start' => (h start start').bind fun value => hnext value start start'

/-- Each action reads its own setup. -/
theorem read_bind {next next' : Setup σ π → Action σ π α}
    (h : StaysAbreast setup setup' (next setup) (next' setup')) :
    StaysAbreast setup setup' (MonadReader.read >>= next) (MonadReader.read >>= next') :=
  h

/-- What is got differs in messages, clocks and flags only. -/
theorem get_bind {next next' : Compile σ π → Action σ π α}
    (h : ∀ compile transcript clock diagnostics,
      Level compile (compile.sounding transcript clock diagnostics) →
        StaysAbreast setup setup' (next compile)
          (next' (compile.sounding transcript clock diagnostics))) :
    StaysAbreast setup setup' (MonadState.get >>= next) (MonadState.get >>= next') := by
  intro start start' first second habreast
  obtain ⟨transcript, clock, diagnostics, rfl⟩ := habreast.sounds
  exact h first transcript clock diagnostics habreast.toLevel start start' first _ habreast

/-- What is read of the products differs in the flags only, and there are errors among them in both
compiles or in none. -/
theorem product_bind {next next' : Product → Action σ π α}
    (h : ∀ (product : Product) (diagnostics : Diagnostics),
      product.diagnostics.hasErrors = diagnostics.hasErrors →
        StaysAbreast setup setup' (next product) (next' { product with diagnostics })) :
    StaysAbreast setup setup' (Action.product >>= next) (Action.product >>= next') :=
  get_bind fun compile _ _ diagnostics hlevel => h compile.product diagnostics hlevel.has_errors

theorem of_except {ε : Type} {toFailure : ε → Failure} {result : Except ε α} :
    StaysAbreast setup setup' (ofExcept toFailure result) (ofExcept toFailure result) := by
  cases result with
  | error error => exact fail
  | ok value => exact pure

theorem ite {condition : Prop} [Decidable condition] {first second first' second' : Action σ π α}
    (hfirst : StaysAbreast setup setup' first first')
    (hsecond : StaysAbreast setup setup' second second') :
    StaysAbreast setup setup' (if condition then first else second)
      (if condition then first' else second') := by
  split <;> assumption

/-- An attempt yields the outcome, which is the same under both setups. -/
theorem attempt {action action' : Action σ π α} (h : StaysAbreast setup setup' action action') :
    StaysAbreast setup setup' (Rendering.attempt action) (Rendering.attempt action') := by
  intro start start' first second habreast
  have hboth := h start start' first second habreast
  rw [run_attempt, run_attempt]
  generalize action.run setup first = outcome at hboth
  generalize action'.run setup' second = outcome' at hboth
  cases hboth with
  | value h => exact .value h
  | failure h => exact .value h

/-- A change that neither regards nor touches messages, clocks and flags. -/
theorem modify {change : Compile σ π → Compile σ π}
    (h : ∀ compile transcript clock diagnostics,
      change (compile.sounding transcript clock diagnostics) =
        (change compile).sounding transcript clock diagnostics) :
    StaysAbreast setup setup' (modify change : Action σ π Unit) (modify change) := by
  intro start start' first second habreast
  have hself := h first first.world.transcript first.world.clock first.product.diagnostics
  obtain ⟨transcript, clock, diagnostics, rfl⟩ := habreast.sounds
  refine .value ?_
  show Abreast start start' (change first) (change (first.sounding _ _ _))
  rw [h]
  refine habreast.sounding ⟨congrArg (·.product.diagnostics) hself, ?_⟩
  exact congrArg (·.world.transcript) hself

/-- A change of the world that neither regards nor touches messages and clocks. -/
theorem in_world {change : World σ π → α × World σ π}
    (h : ∀ (world : World σ π) (transcript : Transcript) (clock : Clock),
      change { world with transcript, clock } =
        ((change world).1, { (change world).2 with transcript, clock })) :
    StaysAbreast setup setup' (inWorld change) (inWorld change) := by
  intro start start' first second habreast
  have hself := h first.world first.world.transcript first.world.clock
  obtain ⟨transcript, clock, diagnostics, rfl⟩ := habreast.sounds
  rw [run_in_world, run_in_world]
  show Together _ _ _ (.ok (change { first.world with transcript, clock }).1,
    { first.sounding transcript clock diagnostics with
      world := (change { first.world with transcript, clock }).2 })
  rw [h first.world transcript clock]
  have hafter : Abreast start start' { first with world := (change first.world).2 }
      ({ first with world := (change first.world).2 }.sounding transcript clock diagnostics) :=
    habreast.sounding ⟨rfl, congrArg (·.2.transcript) hself⟩
  exact .value hafter

/-- What follows a request to the engine may rely on its being an answer of the engine. -/
theorem ask_bind {verb : Engine.Verb} {operation : σ → Except Engine.Error α × σ}
    {next next' : α → Action σ π β}
    (h : ∀ value state, (operation state).1 = .ok value →
      StaysAbreast setup setup' (next value) (next' value)) :
    StaysAbreast setup setup' (Action.ask verb operation >>= next)
      (Action.ask verb operation >>= next') := by
  intro start start' first second habreast
  have hengine : first.world.engine = second.world.engine :=
    congrArg (·.world.engine) habreast.muted
  have hafter (engine : σ) : Abreast start start'
      { first with world := { first.world with engine } }
      { second with world := { second.world with engine } } := by
    obtain ⟨transcript, clock, diagnostics, rfl⟩ := habreast.sounds
    exact habreast.sounding ⟨rfl, rfl⟩
  rw [run_bind, run_bind, run_ask, run_ask, hengine]
  cases hanswer : (operation second.world.engine).1 with
  | error error => exact .failure (hafter _)
  | ok value => exact h value _ hanswer start start' _ _ (hafter _)

theorem ask {verb : Engine.Verb} {operation : σ → Except Engine.Error α × σ} :
    StaysAbreast setup setup' (Action.ask verb operation) (Action.ask verb operation) := by
  have h : StaysAbreast setup setup' (Action.ask verb operation >>= Pure.pure)
      (Action.ask verb operation >>= Pure.pure) := ask_bind fun _ _ _ => pure
  rwa [bind_pure] at h

/-! ## Messages and flags -/

/-- Both compiles say the same. -/
theorem progress {text : String} :
    StaysAbreast setup setup' (Action.progress text) (Action.progress text) := by
  intro start start' first second h
  obtain ⟨said, hfirst, hsecond⟩ := h.transcripts
  refine .value { h with
    muted := h.muted
    transcripts := ⟨said ++ [⟨.info, text⟩], ?_, ?_⟩ }
  · rw [← List.append_assoc, ← hfirst]; rfl
  · rw [← List.append_assoc, ← hsecond]; rfl

theorem add_flag {flag : Flag} :
    StaysAbreast setup setup' (Action.addFlag flag) (Action.addFlag flag) :=
  fun _ _ _ _ h => .value { h.toLevel.add_flag flag with transcripts := h.transcripts }

theorem add_flags {flags : List Flag} :
    StaysAbreast setup setup' (Action.addFlags flags) (Action.addFlags flags) := by
  intro start start' first second h
  refine .value ?_
  show Abreast start start'
    { first with product := { first.product with
      diagnostics := first.product.diagnostics.addAll flags } }
    { second with product := { second.product with
      diagnostics := second.product.diagnostics.addAll flags } }
  unfold Diagnostics.addAll
  induction flags generalizing first second with
  | nil => exact h
  | cons flag rest ih =>
    have hflag : StaysAbreast setup setup' (Action.addFlag flag) (Action.addFlag flag) := add_flag
    cases hflag _ _ first second h with
    | value h => exact ih _ _ h

/-- A change of the products that neither regards nor touches the flags. -/
theorem modify_product {change : Product → Product}
    (h : ∀ (product : Product) (diagnostics : Diagnostics),
      change { product with diagnostics } = { change product with diagnostics }) :
    StaysAbreast setup setup' (Action.modifyProduct change) (Action.modifyProduct change) := by
  refine modify fun compile transcript clock diagnostics => ?_
  show Compile.mk _ _ _ (change { compile.product with diagnostics }) = _
  rw [h]
  rfl

theorem advance {next : Stage} :
    StaysAbreast setup setup' (Action.advance next) (Action.advance next) :=
  product_bind fun _ _ _ => .bind .of_except fun _ => modify_product fun _ _ => rfl

theorem root : StaysAbreast setup setup' Action.root Action.root := by
  refine product_bind fun product _ _ => ?_
  cases product.root with
  | none => exact fail
  | some root => exact pure

theorem root_reference : StaysAbreast setup setup' Action.rootReference Action.rootReference :=
  .bind root fun _ => product_bind fun _ _ _ => pure

theorem in_world_save {path : Path} {text : String} :
    StaysAbreast setup setup' (inWorld (World.save · path text))
      (inWorld (World.save · path text)) :=
  .in_world fun _ _ _ => rfl

theorem save {path : Path} {text : String} :
    StaysAbreast setup setup' (Action.save path text) (Action.save path text) := by
  refine .bind in_world_save fun error => ?_
  cases error with
  | none => exact pure
  | some reason => exact fail

theorem launch {path : Path} {arguments : List Path} :
    StaysAbreast setup setup' (inWorld (World.launch · path arguments))
      (inWorld (World.launch · path arguments)) := by
  refine .in_world fun world transcript clock => ?_
  unfold World.launch
  dsimp only
  split <;> rfl

/-! ## What is read of the setup -/

section Reporting

variable {profile shortNames printTypes : Bool}

theorem output_directory :
    StaysAbreast setup (setup.reporting profile shortNames printTypes) outputDirectory
      outputDirectory :=
  read_bind (get_bind fun _ _ _ _ _ => pure)

theorem output_base :
    StaysAbreast setup (setup.reporting profile shortNames printTypes) outputBase outputBase :=
  read_bind (.bind root fun _ => pure)

theorem output_program {file : String} :
    StaysAbreast setup (setup.reporting profile shortNames printTypes) (outputProgram file)
      (outputProgram file) :=
  .bind output_directory fun _ => .of_except

theorem support_reference {module : SupportModule} :
    StaysAbreast setup (setup.reporting profile shortNames printTypes) (supportReference module)
      (supportReference module) :=
  read_bind pure

theorem extract_with {aliasStart module : String} {result : Engine.ApplyResult} :
    StaysAbreast setup (setup.reporting profile shortNames printTypes)
      (extractWith aliasStart result module) (extractWith aliasStart result module) := by
  refine .bind output_program fun name => ?_
  cases result.extract? module name aliasStart with
  | some program => exact pure
  | none => exact fail

theorem install {program : Engine.Program} :
    StaysAbreast setup (setup.reporting profile shortNames printTypes) (Action.install program)
      (Action.install program) :=
  read_bind (.bind .ask fun _ => .ite fail pure)

theorem install_temporary {program : Engine.Program} :
    StaysAbreast setup (setup.reporting profile shortNames printTypes) (installTemporary program)
      (installTemporary program) :=
  .bind install fun _ => modify fun _ _ _ _ => rfl

theorem uninstall {names : List ProgramName} :
    StaysAbreast setup (setup.reporting profile shortNames printTypes) (Action.uninstall names)
      (Action.uninstall names) := by
  cases names with
  | nil => exact pure
  | cons first rest => exact read_bind (.bind .ask fun _ => .ite (modify fun _ _ _ _ => rfl) fail)

theorem ensure_support {modules : List SupportModule} :
    StaysAbreast setup (setup.reporting profile shortNames printTypes) (ensureSupport modules)
      (ensureSupport modules) := by
  induction modules with
  | nil => exact pure
  | cons module rest ih =>
    refine read_bind (get_bind fun _ _ _ _ _ => .ite (.bind .of_except fun loaded => ?_) ih)
    refine .bind (modify fun _ _ _ _ => rfl) fun _ => .bind install fun _ => ?_
    exact .bind (modify fun _ _ _ _ => rfl) fun _ => ih

theorem apply {step : Engine.Step} :
    StaysAbreast setup (setup.reporting profile shortNames printTypes) (Action.apply step)
      (Action.apply step) :=
  read_bind (.bind .ask fun _ => .bind .add_flags fun _ => pure)

end Reporting

end StaysAbreast

end Action

end MachineCompiler
