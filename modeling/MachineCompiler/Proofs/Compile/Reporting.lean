import Mathlib.Data.List.Basic
import MachineCompiler.Engine.Interference
import MachineCompiler.Engine.Sample
import MachineCompiler.Source.Line
import MachineCompiler.Proofs.Compile.Account
import MachineCompiler.Proofs.Compile.Evaluation
import MachineCompiler.Proofs.Compile.Tracking
import MachineCompiler.Proofs.Diagnostic.Order
import MachineCompiler.Proofs.Engine.Answers

/-!
# Messages of the engine

Whatever a compile fails at, it passes on the messages that came with queries, with the enumerations
under them, with transforms, and with renderings after which the program could be removed. The
messages that come with installing and removing programs are not passed on: of a refusal only the
first one is told, and of a success none.
-/

namespace MachineCompiler

open Action
open Engine (Answer Due ComesUp note observed)

variable {σ π α β : Type}

/-- After the answers `answers` since `start`, every message due is held, except the ones owed. -/
structure Compile.Settles (patterns : List String) (start : List Answer) (owed : Flag → Prop)
    (answers : List Answer) (compile : Compile (σ × List Answer) π) : Prop where
  kept : compile.world.engine.2 = start ++ answers
  passed : ∀ flag, Due patterns answers flag →
    compile.product.diagnostics.holds flag = true ∨ owed flag

/-- Every message that came with an answer since `start` is held, except the ones owed, and the last
answer was no rendering, so that none of its messages becomes due later. -/
def Compile.Reports (patterns : List String) (start : List Answer) (owed : Flag → Prop)
    (compile : Compile (σ × List Answer) π) : Prop :=
  ∃ answers, compile.Settles patterns start owed answers ∧
    ∀ result, answers.getLast? ≠ some (.rendered result)

/-- The last answer since `start` was a rendering, and its own messages are not due yet. -/
def Compile.Renders (patterns : List String) (start : List Answer) (owed : Flag → Prop)
    (result : Engine.RenderResult) (compile : Compile (σ × List Answer) π) : Prop :=
  ∃ answers, compile.Settles patterns start owed answers ∧
    answers.getLast? = some (.rendered result)

open Compile (Reports Renders)

variable {setup : Setup (σ × List Answer) π} {patterns : List String} {start : List Answer}
  {owed later : Flag → Prop} {compile second : Compile (σ × List Answer) π} {answers : List Answer}

namespace Compile

/-- Nothing is forgotten while the engine is not asked and no flag is lost. -/
theorem Settles.grown (h : compile.Settles patterns start owed answers)
    (hengine : second.world.engine = compile.world.engine)
    (hheld : ∀ flag, owed flag ∨ compile.product.diagnostics.holds flag = true →
      second.product.diagnostics.holds flag = true ∨ later flag) :
    second.Settles patterns start later answers where
  kept := by rw [hengine, h.kept]
  passed flag hdue := hheld flag (h.passed flag hdue).symm

/-- Owing more is no trouble. -/
theorem Settles.mono (h : compile.Settles patterns start owed answers)
    (howed : ∀ flag, owed flag → later flag) : compile.Settles patterns start later answers :=
  h.grown rfl fun flag => Or.symm ∘ Or.imp_left (howed flag)

theorem Reports.grown (h : compile.Reports patterns start owed)
    (hengine : second.world.engine = compile.world.engine)
    (hheld : ∀ flag, owed flag ∨ compile.product.diagnostics.holds flag = true →
      second.product.diagnostics.holds flag = true ∨ later flag) :
    second.Reports patterns start later := by
  obtain ⟨answers, hsettles, hlast⟩ := h
  exact ⟨answers, hsettles.grown hengine hheld, hlast⟩

theorem Reports.mono (h : compile.Reports patterns start owed)
    (howed : ∀ flag, owed flag → later flag) : compile.Reports patterns start later := by
  obtain ⟨answers, hsettles, hlast⟩ := h
  exact ⟨answers, hsettles.mono howed, hlast⟩

end Compile

namespace Action

/-! ## Candid actions -/

/-- Whatever is owed, the action passes on every other message that it gets. -/
def Candid (setup : Setup (σ × List Answer) π) (patterns : List String)
    (action : Action (σ × List Answer) π α) : Prop :=
  ∀ start owed, Keeps setup (Reports patterns start owed) action

theorem Calm.candid {action : Action (σ × List Answer) π α} (h : Calm setup action) :
    Candid setup patterns action := by
  intro start owed compile hreports
  have hafter := h compile.account compile rfl
  have hsame {after : Compile (σ × List Answer) π} (hsame : after.account = compile.account) :
      after.Reports patterns start owed := by
    simp only [Compile.account, Prod.mk.injEq] at hsame
    refine hreports.grown hsame.1 fun flag => ?_
    rw [hsame.2.1]
    exact Or.symm
  rcases hrun : action.run setup compile with ⟨_ | _, _⟩ <;> rw [hrun] at hafter
  · exact hsame hafter.1
  · exact hsame hafter

namespace Candid

theorem pure {value : α} : Candid setup patterns (pure value : Action (σ × List Answer) π α) :=
  fun _ _ => .pure

theorem fail {failure : Failure} :
    Candid setup patterns (Action.fail failure : Action (σ × List Answer) π α) :=
  fun _ _ => .fail

theorem of_except {ε : Type} {toFailure : ε → Failure} {result : Except ε α} :
    Candid setup patterns (ofExcept toFailure result : Action (σ × List Answer) π α) :=
  fun _ _ => .of_except

theorem bind {action : Action (σ × List Answer) π α} {next : α → Action (σ × List Answer) π β}
    (h : Candid setup patterns action) (hnext : ∀ value, Candid setup patterns (next value)) :
    Candid setup patterns (action >>= next) :=
  fun start owed => .bind (h start owed) fun value => hnext value start owed

theorem read_bind {next : Setup (σ × List Answer) π → Action (σ × List Answer) π α}
    (h : Candid setup patterns (next setup)) :
    Candid setup patterns (MonadReader.read >>= next) :=
  h

theorem ite {condition : Prop} [Decidable condition]
    {first second : Action (σ × List Answer) π α} (hfirst : Candid setup patterns first)
    (hsecond : Candid setup patterns second) :
    Candid setup patterns (if condition then first else second) := by
  split <;> assumption

theorem modify {change : Compile (σ × List Answer) π → Compile (σ × List Answer) π}
    (h : ∀ compile, (change compile).account = compile.account) :
    Candid setup patterns (modify change : Action (σ × List Answer) π Unit) :=
  (Calm.modify h).candid

theorem add_flag {flag : Flag} :
    Candid setup patterns (addFlag flag : Action (σ × List Answer) π Unit) :=
  fun _ _ _ hreports => hreports.grown rfl fun _ =>
    Or.symm ∘ Or.imp_right fun hheld => Diagnostics.holds_add.2 (.inr hheld)

theorem add_flags {flags : List Flag} :
    Candid setup patterns (addFlags flags : Action (σ × List Answer) π Unit) :=
  fun _ _ _ hreports => hreports.grown rfl fun _ =>
    Or.symm ∘ Or.imp_right fun hheld => Diagnostics.holds_add_all.2 (.inr hheld)

theorem progress {text : String} :
    Candid setup patterns (Action.progress text : Action (σ × List Answer) π Unit) :=
  fun _ _ _ hreports => hreports.grown rfl fun _ => Or.symm

theorem advance {next : Stage} :
    Candid setup patterns (Action.advance next : Action (σ × List Answer) π Unit) := by
  refine .bind Calm.product.candid fun product => .bind .of_except fun stage => ?_
  exact fun _ _ _ hreports => hreports.grown rfl fun _ => Or.symm

end Candid

/-- Recording flags settles what is owed of them. -/
theorem add_flags_settle {flags : List Flag} {E : Failure → Compile (σ × List Answer) π → Prop}
    (h : ∀ flag, owed flag → later flag ∨ flag ∈ flags) :
    Triple setup (Reports patterns start owed) (addFlags flags)
      (fun _ => Reports patterns start later) E := by
  refine fun compile hreports => hreports.grown rfl fun flag howed => ?_
  rcases howed with howed | hheld
  · rcases h flag howed with hlater | hflag
    · exact .inr hlater
    · refine .inl (Diagnostics.holds_add_all.2 (.inl ⟨flag, hflag, ?_⟩))
      exact Std.ReflCmp.compare_self
  · exact .inl (Diagnostics.holds_add_all.2 (.inr hheld))

/-! ## Asking the engine -/

variable {verb : Engine.Verb} {keep : α → Answer} {operation : σ → Except Engine.Error α × σ}

/-- The answer is kept, and what it brings and what it releases is owed. -/
theorem ask_settles (verb : Engine.Verb) (keep : α → Answer)
    (operation : σ → Except Engine.Error α × σ) :
    Triple setup (Compile.Settles patterns start owed answers)
      (ask verb (note verb keep operation))
      (fun value => Compile.Settles patterns start (fun flag => owed flag ∨
        (keep value).Brings patterns flag ∨ (keep value).Releases answers flag)
        (answers ++ [keep value]))
      (fun _ compile => ∃ error,
        compile.Settles patterns start owed (answers ++ [.failed verb error])) := by
  rintro compile ⟨hkept, hpassed⟩
  have happended (answer : Answer) :
      compile.world.engine.2 ++ [answer] = start ++ (answers ++ [answer]) := by
    rw [hkept, List.append_assoc]
  have hdue {answer : Answer} {flag : Flag} (hdue : Due patterns (answers ++ [answer]) flag) :
      compile.product.diagnostics.holds flag = true ∨
        owed flag ∨ answer.Brings patterns flag ∨ answer.Releases answers flag := by
    rcases hdue.of_append with hold | hnew
    · exact (hpassed flag hold).imp_right .inl
    · exact .inr (.inr hnew)
  rw [run_ask]
  unfold note
  rcases operation compile.world.engine.1 with ⟨error | value, engine⟩
  · refine ⟨error, happended _, fun flag hflag => (hdue hflag).imp_right ?_⟩
    simp [Answer.Brings, Answer.Releases]
  · exact ⟨happended _, fun flag hflag => hdue hflag⟩

/-- Nothing is released by an answer that does not follow a rendering. -/
theorem not_releases (h : ∀ result, answers.getLast? ≠ some (.rendered result)) {answer : Answer}
    {flag : Flag} : ¬answer.Releases answers flag := by
  cases answer <;> simp_all [Answer.Releases]

/-- Asking leaves owed what the answer brings, and nothing more when the engine fails. -/
theorem ask_brings (hkeep : ∀ value result, keep value ≠ .rendered result) :
    Triple setup (Reports patterns start owed) (ask verb (note verb keep operation))
      (fun value => Reports patterns start fun flag =>
        owed flag ∨ (keep value).Brings patterns flag)
      (fun _ => Reports patterns start owed) := by
  rintro compile ⟨answers, hsettles, hlast⟩
  refine (ask_settles verb keep operation compile hsettles).mono (fun value after hafter => ?_) ?_
  · refine ⟨_, hafter.mono fun flag => Or.imp_right fun hnew => ?_, by simpa using hkeep value⟩
    exact hnew.resolve_right (not_releases hlast)
  · rintro failure after ⟨error, hafter⟩
    exact ⟨_, hafter, by simp⟩

/-- Asking for something that brings no messages is candid. -/
theorem Candid.ask (hkeep : ∀ value result, keep value ≠ .rendered result)
    (hbrings : ∀ value flag, ¬(keep value).Brings patterns flag) :
    Candid setup patterns (ask verb (note verb keep operation)) := by
  intro start owed
  refine ((ask_brings hkeep).mono (fun _ => id) (fun value _ hreports => ?_) fun _ _ => id).keeps
  exact hreports.mono fun flag howed => howed.resolve_right (hbrings value flag)

variable {engine : ModelEngine σ}

theorem install_candid (h : setup.engine = observed engine) (program : Engine.Program) :
    Candid setup patterns (install program) := by
  refine .read_bind (.bind ?_ fun outcome => .ite .fail .pure)
  rw [h]
  exact .ask (by simp) (by simp [Answer.Brings])

theorem install_temporary_candid (h : setup.engine = observed engine) (program : Engine.Program) :
    Candid setup patterns (installTemporary program) :=
  .bind (install_candid h program) fun _ => Calm.track.candid

theorem install_product_candid (h : setup.engine = observed engine) (program : Engine.Program) :
    Candid setup patterns (installProduct program) :=
  install_temporary_candid h _

theorem uninstall_candid (h : setup.engine = observed engine) (names : List ProgramName) :
    Candid setup patterns (uninstall names) := by
  cases names with
  | nil => exact .pure
  | cons first rest =>
    refine .read_bind (.bind ?_ fun outcome => .ite (.modify fun _ => rfl) .fail)
    rw [h]
    exact .ask (by simp) (by simp [Answer.Brings])

theorem ensure_support_candid (h : setup.engine = observed engine)
    (modules : List SupportModule) : Candid setup patterns (ensureSupport modules) := by
  induction modules with
  | nil => exact .pure
  | cons module rest ih =>
    refine .read_bind (.bind Calm.get.candid fun compile => .ite ?_ ih)
    refine .bind .of_except fun (program, cache) => .bind (.modify fun _ => rfl) fun _ => ?_
    exact .bind (install_candid h program) fun _ => .bind (.modify fun _ => rfl) fun _ => ih

/-- The messages of a transform are recorded at once. -/
theorem apply_candid (h : setup.engine = observed engine) (step : Engine.Step) :
    Candid setup patterns (apply step) := by
  intro start owed
  refine .read_bind (Triple.keeps ?_)
  rw [h]
  refine (ask_brings (by simp)).bind fun result => ?_
  exact (add_flags_settle fun flag => id).bind fun _ => .pure fun _ hreports => hreports

end Action

namespace Rendering

variable {engine : ModelEngine σ}

theorem write_files_candid (directory : Path) (appendix : String)
    (files : List Engine.VirtualFile) :
    Candid setup patterns (writeFiles directory appendix files) := by
  induction files with
  | nil => exact .pure
  | cons file rest ih =>
    refine .bind ?_ fun _ => .bind ih fun _ => .pure
    refine .bind .progress fun _ => ?_
    refine .bind (Calm.in_world (fun world => world.engine_save)
      fun world => world.transcript_save).candid fun error => ?_
    cases error with
    | none => exact .bind (.modify fun _ => rfl) fun _ => .pure
    | some reason => exact .bind .add_flag fun _ => .pure

/-- A rendering is the last answer until the program is removed. -/
theorem ask_renders (operation : σ → Except Engine.Error Engine.RenderResult × σ) :
    Triple setup (Reports patterns start owed)
      (ask .render (note .render .rendered operation))
      (fun result => Renders patterns start owed result)
      (fun _ => Reports patterns start owed) := by
  rintro compile ⟨answers, hsettles, hlast⟩
  refine (ask_settles _ _ operation compile hsettles).mono (fun result after hafter => ?_) ?_
  · refine ⟨_, hafter.mono fun flag => ?_, List.getLast?_concat⟩
    simp [Answer.Brings, Answer.Releases]
  · rintro failure after ⟨error, hafter⟩
    exact ⟨_, hafter, by simp⟩

/-- When the program is removed, the messages of its rendering are owed. -/
theorem uninstall_releases (h : setup.engine = observed engine) (name : ProgramName)
    (result : Engine.RenderResult) :
    Triple setup (Renders patterns start owed result) (uninstall [name])
      (fun _ => Reports patterns start fun flag => owed flag ∨ flag ∈ result.flags)
      (fun _ => Reports patterns start owed) := by
  rintro compile ⟨answers, hsettles, hlast⟩
  have hasked : Triple setup (Compile.Settles patterns start owed answers)
      (ask .uninstall (setup.engine.uninstall [name]))
      (fun outcome => Compile.Settles patterns start
        (fun flag => owed flag ∨ outcome.succeeded = true ∧ flag ∈ result.flags)
        (answers ++ [.uninstalled outcome]))
      (fun _ => Reports patterns start owed) := by
    rw [h]
    refine (ask_settles _ _ _).mono (fun _ => id) (fun outcome after hafter => ?_) ?_
    · refine hafter.mono fun flag => Or.imp_right ?_
      simp [Answer.Brings, Answer.Releases, hlast]
    · rintro failure after ⟨error, hafter⟩
      exact ⟨_, hafter, by simp⟩
  -- A refusal fails the action, and nothing more is owed, because it releases nothing.
  refine hasked.bind (R := fun _ => Reports patterns start fun flag =>
    owed flag ∨ flag ∈ result.flags) (fun outcome after hafter => ?_) compile hsettles
  split
  · refine ⟨_, ⟨hafter.kept, fun flag hdue => ?_⟩, by simp⟩
    exact (hafter.passed flag hdue).imp_right (Or.imp_right And.right)
  · rename_i hfailed
    refine ⟨_, hafter.mono fun flag howed => howed.resolve_right ?_, by simp⟩
    exact fun hsucceeded => hfailed hsucceeded.1

/-- The messages of a rendering are recorded as soon as its program is removed. -/
theorem render_candid (h : setup.engine = observed engine) (program : Engine.Program)
    (renderer appendix : String) : Candid setup patterns (render program renderer appendix) := by
  intro start owed
  refine .read_bind ?_
  split
  · exact .fail
  · refine ((install_temporary_candid h _ start owed).triple.bind fun _ => ?_).keeps
    rw [h]
    refine (ask_renders _).attempt.bind fun outcome => ?_
    cases outcome with
    | error failure =>
      exact (uninstall_candid h _ start owed).triple.bind fun _ compile hreports => hreports
    | ok result =>
      refine (uninstall_releases h _ result).bind fun _ => ?_
      show Triple setup _ (addFlags result.flags >>= fun _ => _) _ _
      refine (add_flags_settle fun flag => id).bind fun _ => (Candid.ite ?_ .pure start owed).triple
      exact .bind Calm.output_directory.candid fun directory =>
        write_files_candid directory appendix result.files

end Rendering

namespace Phase

variable {engine : ModelEngine σ}

theorem run_parse_candid : Candid setup patterns (runParse : Action (σ × List Answer) π Unit) := by
  have failed (flags : List Flag) :
      Candid setup patterns (parseFailed flags : Action (σ × List Answer) π Unit) :=
    .bind .add_flags fun _ => .fail
  refine .bind Calm.read.candid fun _ => .bind Calm.get.candid fun _ => ?_
  dsimp only
  split
  · exact failed _
  · refine .bind Calm.resolve_files.candid fun outcome => ?_
    split
    · exact failed _
    · exact .bind .add_flags fun _ => .bind (.modify fun _ => rfl) fun _ => .advance

theorem run_install_candid (h : setup.engine = observed engine) :
    Candid setup patterns (runInstall : Action (σ × List Answer) π Unit) := by
  have installed {program : Engine.Program} : Candid setup patterns
      (do installProduct program; advance .modelInstalled : Action (σ × List Answer) π Unit) :=
    .bind (install_product_candid h program) fun _ => .advance
  refine .read_bind (.bind (ensure_support_candid h _) fun _ => ?_)
  refine .bind Calm.root.candid fun root => .bind Calm.support_reference.candid fun domain => ?_
  refine .bind Calm.parsed_program.candid fun program => .bind Calm.product.candid fun product => ?_
  refine .ite (.bind Calm.output_directory.candid fun directory => ?_) installed
  exact .bind Calm.save.candid fun _ => installed

/-- The patterns whose proofs a check enumerates, in order. -/
def asked (options : Options) : List String :=
  errorPatterns.map ErrorPattern.pattern ++ if options.printTypes then [typePattern] else []

/-- After an enumeration of a pattern, the messages of the patterns after it come up. -/
theorem comes_up_cons {outcome : Engine.QueryOutcome} {flag : Flag} {pattern : String}
    {rest : List String} {found : Engine.Enumeration}
    (hfound : outcome.enumerate pattern 1 = .ok found)
    (h : ComesUp outcome flag (pattern :: rest)) :
    ComesUp outcome flag rest ∨ flag ∈ found.flags := by
  cases h with
  | here hfound' hflag =>
    cases hfound.symm.trans hfound'
    exact .inr hflag
  | later hfound' hrest => exact .inl hrest

/-- Nothing comes up when the first enumeration fails. -/
theorem not_comes_up {outcome : Engine.QueryOutcome} {flag : Flag} {pattern : String}
    {rest : List String} {error : Engine.Error}
    (herror : outcome.enumerate pattern 1 = .error error) :
    ¬ComesUp outcome flag (pattern :: rest) := by
  intro h
  cases h with
  | here hfound => cases herror.symm.trans hfound
  | later hfound => cases herror.symm.trans hfound

/-- An enumeration brings its own messages, and those of the patterns after it may come up. -/
theorem proofs_of_brings (outcome : Engine.QueryOutcome) (pattern : String) (rest : List String) :
    Triple setup
      (Reports patterns start fun flag => owed flag ∨ ComesUp outcome flag (pattern :: rest))
      (proofsOf outcome pattern)
      (fun found => Reports patterns start fun flag =>
        (owed flag ∨ ComesUp outcome flag rest) ∨ flag ∈ found.flags)
      (fun _ => Reports patterns start owed) := by
  unfold proofsOf
  cases hfound : outcome.enumerate pattern 1 with
  | error error =>
    exact fun _ hreports =>
      hreports.mono fun flag howed => howed.resolve_right (not_comes_up hfound)
  | ok found =>
    refine .pure fun _ hreports => hreports.mono fun flag howed => ?_
    rcases howed with howed | hcomes
    · exact .inl (.inl howed)
    · exact (comes_up_cons hfound hcomes).imp_left .inr

/-- The messages of the enumerations are recorded one enumeration after the other. -/
theorem record_errors_settle (outcome : Engine.QueryOutcome) (root : ProgramName)
    (kinds : List ErrorPattern) (rest : List String) :
    Triple setup
      (Reports patterns start fun flag =>
        owed flag ∨ ComesUp outcome flag (kinds.map ErrorPattern.pattern ++ rest))
      (recordErrors outcome root kinds)
      (fun _ => Reports patterns start fun flag => owed flag ∨ ComesUp outcome flag rest)
      (fun _ => Reports patterns start owed) := by
  induction kinds with
  | nil => exact .pure fun _ hreports => hreports
  | cons kind others ih =>
    refine (proofs_of_brings outcome kind.pattern _).bind fun found => ?_
    refine (add_flags_settle fun flag howed => howed.imp_right fun hflag => ?_).bind fun _ => ih
    exact List.mem_append_right _ hflag

theorem run_check_candid (h : setup.engine = observed engine) :
    Candid setup (asked setup.options) (runCheck : Action (σ × List Answer) π Unit) := by
  have concluded (outcome : Engine.QueryOutcome) : Candid setup (asked setup.options) (do
      if outcome.conclusion ≠ .holds ∨ (← Action.product).diagnostics.hasErrors then
        Action.fail (.phase "check")
      Action.advance .checked : Action (σ × List Answer) π Unit) :=
    .bind Calm.product.candid fun _ => .ite (.bind .fail fun _ => .advance) .advance
  refine .read_bind (.bind Calm.root.candid fun root => .bind Calm.product.candid fun product => ?_)
  rw [h]
  refine fun start owed => Triple.keeps ((ask_brings (by simp)).bind fun outcome => ?_)
  let printed := if setup.options.printTypes then [typePattern] else []
  have hflags : Triple setup
      (Reports (asked setup.options) start fun flag =>
        owed flag ∨ (Answer.queried outcome).Brings (asked setup.options) flag)
      (addFlags outcome.flags)
      (fun _ => Reports (asked setup.options) start fun flag =>
        owed flag ∨ ComesUp outcome flag (errorPatterns.map ErrorPattern.pattern ++ printed))
      (fun _ => Reports (asked setup.options) start owed) := by
    refine add_flags_settle fun flag howed => ?_
    rcases howed with howed | hflag | hcomes
    · exact .inl (.inl howed)
    · exact .inr hflag
    · exact .inl (.inr hcomes)
  -- What may still come up shrinks with every enumeration, and to nothing with the last one.
  refine hflags.bind fun _ => (record_errors_settle outcome root errorPatterns printed).bind
    fun _ => ?_
  cases hprint : setup.options.printTypes with
  | true =>
    simp only [printed, hprint, if_true]
    refine (proofs_of_brings outcome typePattern []).bind fun found => ?_
    refine Triple.bind (add_flags_settle fun flag howed => ?_) fun _ =>
      (concluded outcome start owed).triple
    rcases howed with (howed | hnone) | hflag
    · exact .inl howed
    · nomatch hnone
    · exact .inr (List.mem_append_right _ hflag)
  | false =>
    simp only [printed, hprint, Bool.false_eq_true, if_false]
    exact fun compile hreports => (concluded outcome start owed).triple compile
      (hreports.mono fun flag howed => howed.resolve_right nofun)

theorem lower_link_candid (h : setup.engine = observed engine) (descriptor : Engine.ModuleRef) :
    Candid setup patterns (lowerLink descriptor : Action (σ × List Answer) π Bool) := by
  refine .bind Calm.product.candid fun _ => .bind Calm.support_reference.candid fun transform => ?_
  refine .bind (apply_candid h _) fun result => .bind Calm.extract_with.candid fun program => ?_
  exact Rendering.render_candid h program cRenderer ""

theorem link_candid (h : setup.engine = observed engine) (program : Engine.Program) :
    Candid setup patterns (link program : Action (σ × List Answer) π Bool) := by
  refine .bind (install_temporary_candid h _) fun _ => .bind ?_ fun linked => ?_
  · exact fun start owed => (lower_link_candid h _ start owed).attempt
  · exact .bind (uninstall_candid h _) fun _ => .of_except

theorem run_generate_c_candid (h : setup.engine = observed engine) :
    Candid setup patterns (runGenerateC : Action (σ × List Answer) π Unit) := by
  refine .read_bind (.bind (ensure_support_candid h _) fun _ => ?_)
  refine .bind Calm.product.candid fun _ => ?_
  refine .bind Calm.support_reference.candid fun transform => ?_
  refine .bind Calm.root_reference.candid fun root => .bind Calm.output_base.candid fun base => ?_
  refine .bind (apply_candid h _) fun result => .bind Calm.extract_with.candid fun cProgram => ?_
  refine .bind (Rendering.render_candid h cProgram _ _) fun rendered => ?_
  refine .bind Calm.extract_with.candid fun linkProgram => ?_
  refine .bind Calm.output_directory.candid fun directory => .bind Calm.save.candid fun _ => ?_
  refine .bind (link_candid h linkProgram) fun linked => ?_
  exact .ite (.bind .fail fun _ => .advance) .advance

theorem install_typed_model_candid (h : setup.engine = observed engine) :
    Candid setup patterns (installTypedModel : Action (σ × List Answer) π Engine.ModuleRef) := by
  refine .bind (ensure_support_candid h _) fun _ => .bind Calm.product.candid fun _ => ?_
  refine .bind Calm.support_reference.candid fun transform => ?_
  refine .bind Calm.root_reference.candid fun root => .bind (apply_candid h _) fun result => ?_
  refine .bind Calm.extract_with.candid fun program => ?_
  exact .bind (install_product_candid h program) fun _ => .pure

theorem compile_model_candid (source target : String) :
    Candid setup patterns (compileModel source target : Action (σ × List Answer) π Unit) := by
  have found : Candid setup patterns (runModelCompiler setup source target) := by
    refine .bind Calm.output_directory.candid fun directory => .bind .progress fun _ => ?_
    refine .bind (Calm.in_world (fun world => world.engine_launch)
      fun world => world.transcript_launch).candid fun report => ?_
    refine .bind .of_except fun report => .ite (.bind Calm.product.candid fun _ => ?_) .pure
    exact .bind .add_flag fun _ => .fail
  refine .read_bind (.bind Calm.get.candid fun compile => .ite ?_ found)
  exact .bind .fail fun _ => found

theorem run_generate_verification_candid (h : setup.engine = observed engine) :
    Candid setup patterns (runGenerateVerification : Action (σ × List Answer) π Unit) := by
  refine .read_bind (.bind (install_typed_model_candid h) fun typed => ?_)
  refine .bind (ensure_support_candid h _) fun _ => .bind Calm.output_base.candid fun base => ?_
  refine .bind Calm.product.candid fun _ => .bind Calm.support_reference.candid fun transform => ?_
  refine .bind Calm.root_reference.candid fun root => .bind (apply_candid h _) fun result => ?_
  refine .bind Calm.extract_with.candid fun program => .bind Calm.get.candid fun _ => ?_
  refine .bind .of_except fun appendix => ?_
  refine .bind (Rendering.render_candid h program _ _) fun rendered => ?_
  have compiled : Candid setup patterns (do
      compileModel (base ++ ".zing") (base ++ ".dll")
      Action.advance .verificationTargetGenerated : Action (σ × List Answer) π Unit) :=
    .bind (compile_model_candid _ _) fun _ => .advance
  exact .ite (.bind .fail fun _ => compiled) compiled

end Phase

/-! ## Compiles -/

namespace Compiler

variable {engine : ModelEngine σ}

theorem built_in_candid (h : setup.engine = observed engine) :
    ∀ phase ∈ (Pipeline.builtIn : List (Phase (σ × List Answer) π)),
      Candid setup (Phase.asked setup.options) phase.run := by
  simp only [Pipeline.builtIn, List.forall_mem_cons, List.not_mem_nil, false_imp_iff,
    implies_true, and_true]
  exact ⟨Phase.run_parse_candid, Phase.run_install_candid h, Phase.run_check_candid h,
    Phase.run_generate_c_candid h, Phase.run_generate_verification_candid h⟩

theorem timing_accompanies : Pipeline.Accompanies setup (Reports patterns start owed)
    (Plugin.timing : Plugin (σ × List Answer) π) := by
  have clock : Candid setup patterns (inWorld World.readClock : Action (σ × List Answer) π Nat) :=
    (Calm.in_world (fun _ => rfl) fun _ => rfl).candid
  intro phase
  refine (clock start owed).triple.bind fun first => .pure fun compile hreports => ⟨hreports, ?_⟩
  exact Candid.bind clock (fun second => .progress) start owed

theorem pipeline_candid (h : setup.engine = observed engine) :
    Candid setup (Phase.asked setup.options)
      (pipeline setup.options : Pipeline (σ × List Answer) π).run := by
  intro start owed
  have hphases := fun phase hphase => built_in_candid (π := π) h phase hphase start owed
  unfold pipeline
  split
  · refine .bind (Pipeline.run_phases_keeps ?_ hphases) fun _ => Candid.advance start owed
    exact List.forall_mem_singleton.2 timing_accompanies
  · refine .bind (Pipeline.run_phases_keeps ?_ hphases) fun _ => Candid.advance start owed
    exact List.forall_mem_nil _

/-- A compile holds every message that was due when it ends, whatever it has failed at. -/
theorem run_phases_reports (h : setup.engine = observed engine)
    (session : Session (σ × List Answer) π) :
    (runPhases setup session.begin).Reports (Phase.asked setup.options) session.world.engine.2
      fun _ => False := by
  have hstart : session.begin.Reports (Phase.asked setup.options) session.world.engine.2
      fun _ => False := by
    refine ⟨[], ⟨(List.append_nil _).symm, fun flag hdue => absurd hdue Engine.not_due_nil⟩, ?_⟩
    simp
  have hreset : Candid setup (Phase.asked setup.options)
      (reset : Action (σ × List Answer) π Unit) :=
    .bind Calm.get.candid fun _ => uninstall_candid h _
  have hkeeps := Candid.bind hreset (fun _ => pipeline_candid h) _ _ _ hstart
  unfold runPhases
  split
  · rename_i hrun
    rw [hrun] at hkeeps
    exact hkeeps
  · rename_i hrun
    rw [hrun] at hkeeps
    refine hkeeps.grown rfl fun flag => Or.symm ∘ Or.imp_right fun hheld => ?_
    unfold conclude
    split
    · exact hheld
    · exact Diagnostics.holds_add.2 (.inr hheld)

end Compiler

/-- Whatever a compile fails at, and whatever engine it asks, every message that is due is among the
flags that it writes at its end: the messages of queries, of the enumerations under them, of
transforms, and of renderings after which the program was removed. -/
theorem answers_are_passed_on (engine : ModelEngine σ) (parser : Source.Parser π)
    (toolchain : Toolchain) (options : Options) (input : Path)
    (session : Session (σ × List Answer) π) :
    let compiler : Compiler (σ × List Answer) π := ⟨observed engine, parser, toolchain⟩
    let flags :=
      (Compiler.runPhases (compiler.setup options input) session.begin).product.diagnostics.flags
    let after := (compiler.compile options input session).2
    ∃ answers progress ending,
      after.world.engine.2 = session.world.engine.2 ++ answers ∧
      after.world.transcript = progress
        ++ flags.map (fun flag => ⟨flag.severity, options.flagLayout.line flag⟩) ++ ending ∧
      ∀ flag, Due (Phase.asked options) answers flag →
        ∃ held ∈ flags, flag.order held = .eq := by
  intro compiler flags after
  have hengine : (compiler.setup options input).engine = observed engine := rfl
  obtain ⟨answers, ⟨hkept, hpassed⟩, -⟩ := Compiler.run_phases_reports hengine session
  refine ⟨answers, _, _, hkept, (List.append_assoc _ _ _).symm, fun flag hdue => ?_⟩
  obtain ⟨held, hheld, hsame⟩ := List.any_eq_true.1 ((hpassed flag hdue).resolve_right id)
  exact ⟨held, hheld, by simpa using hsame⟩

/-- The messages of installs are not passed on: the engine installs the first support file with a
warning, and the compile succeeds and says nothing. -/
theorem warning_of_install_is_lost :
    let warning : Flag := ⟨.warning, .unknown, "deprecated construct", .plain, none⟩
    let rule : Engine.Interference :=
      ⟨.install, some 0, none, ⟨true, [("P", warning)]⟩, [], none, none, []⟩
    let compiler : Compiler (Engine.Interfered Engine.Memory × List Answer) (List ProgramName) :=
      ⟨observed (Engine.interfered (Engine.inMemory Engine.Sample.rules)), Source.lineParser,
        .inDirectory (.ofString "/toolchain")⟩
    let files := (Toolchain.laySample (.ofString "/toolchain")
      (.inDirectory (.ofString "/work"))).lay (.ofString "/work/Main.p")
        (.file (.text "machine Main\n") .plain)
    let world : World (Engine.Interfered Engine.Memory × List Answer) (List ProgramName) :=
      ⟨(⟨[rule], fun _ => 0, .empty⟩, []), [], files, [], [], .still⟩
    let compiled := compiler.compile { Options.default with analyze := true } (.ofString "Main.p")
      (.start world)
    compiled.2.world.engine.2.flatMap Answer.flags = [warning] ∧
      compiled.1 = true ∧ compiled.2.world.transcript = [] := by
  intro warning rule compiler files world compiled
  let setup := compiler.setup { Options.default with analyze := true } (.ofString "Main.p")
  let compile := (Session.start world).begin
  let root : ProgramName :=
    ⟨(compile.world.currentDirectory.join setup.input).components.foldl ProgramName.walk []⟩
  let output := Source.lineParser.parseFile root "machine Main\n" .empty []
  let resolution : Source.Resolution := ⟨output.2.1.program, [root], output.1.flags⟩
  let parsed := Phase.parsedAs setup root resolution output.2.2 compile
  have hopen : files.openText root.path = .ok (root.segments, "machine Main\n") := by decide +kernel
  have hparsed : Source.lineParser.parseFile root "machine Main\n" .empty [] = output := rfl
  have hresolve : Source.resolve files Source.lineParser root [] = (.ok resolution, output.2.2) :=
    Source.resolve_single hopen hparsed (by decide +kernel) (by decide +kernel)
  have hparse : Phase.runParse.run setup compile = (.ok (), parsed) :=
    Phase.run_parse_of_resolved rfl hresolve rfl
  have hrun : (do Compiler.reset; (Compiler.pipeline setup.options).run : Action _ _ Unit).run setup
        compile =
      (do
        Pipeline.runPhases []
          [Phase.install, Phase.check, Phase.generateC, Phase.generateVerification]
        Action.advance .done : Action _ _ Unit).run setup parsed := by
    show Action.run (Pipeline.runPhases [] Pipeline.builtIn >>= fun _ => Action.advance .done)
      setup compile = _
    have henabled : Phase.parse.enabled setup compile = true := rfl
    rw [run_bind, Pipeline.builtIn, Pipeline.run_run_phases_cons, if_pos henabled,
      Pipeline.run_phase_silent, run_bind, show Phase.parse.run = Phase.runParse from rfl, hparse,
      run_bind]
  have hcompiled : compiled = compiler.compile { Options.default with analyze := true }
      (.ofString "Main.p") (.start world) := rfl
  rw [hcompiled, Compiler.engine_compile, Compiler.succeeded_compile, Compiler.transcript_compile,
    Compiler.runPhases, hrun]
  decide +kernel

end MachineCompiler
