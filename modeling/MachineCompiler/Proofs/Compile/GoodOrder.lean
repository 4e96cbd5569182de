import MachineCompiler.Proofs.Compile.Account
import MachineCompiler.Proofs.Diagnostic.Order

/-!
# Compiles in good order

A compile is in good order while its flags ascend and everything it wrote is about progress. Actions
are judged by what they make of what is known about the stage and the flags; orderly ones change
nothing about it. An action that fails does so for a regular reason and leaves the messages in
order.
-/

namespace MachineCompiler

open Action

variable {σ π α β : Type}

/-- The messages after `before` are about progress. -/
def Compile.Talks (before : Transcript) (compile : Compile σ π) : Prop :=
  ∃ progress : Transcript, (∀ message ∈ progress, message.severity = .info) ∧
    compile.world.transcript = before ++ progress

/-- What is known of the stage and the flags of a compile. -/
abbrev Knowledge := Stage → Diagnostics → Prop

/-- A compile in good order, with `K` of its stage and its flags. -/
structure Compile.Stands (before : Transcript) (K : Knowledge) (compile : Compile σ π) : Prop where
  talks : compile.Talks before
  ascending : compile.product.diagnostics.Ascending
  known : K compile.product.stage compile.product.diagnostics

/-- A compile that ended with a failure, but with its messages in order. -/
structure Compile.Broken (before : Transcript) (failure : Failure) (compile : Compile σ π) :
    Prop where
  regular : failure.Regular
  talks : compile.Talks before
  ascending : compile.product.diagnostics.Ascending

open Compile (Stands Broken)

variable {setup : Setup σ π} {before : Transcript} {K L : Knowledge} {compile second : Compile σ π}

namespace Compile.Stands

/-- What is known is known by other words. -/
theorem mono (h : compile.Stands before K)
    (hK : ∀ stage diagnostics, K stage diagnostics → L stage diagnostics) :
    compile.Stands before L :=
  ⟨h.talks, h.ascending, hK _ _ h.known⟩

/-- Good order is a matter of the account. -/
theorem same (h : compile.Stands before K) (hsame : second.account = compile.account) :
    second.Stands before K := by
  simp only [Compile.account, Prod.mk.injEq] at hsame
  obtain ⟨-, hdiagnostics, hstage, htranscript⟩ := hsame
  obtain ⟨⟨progress, hinfo, htalks⟩, hascending, hknown⟩ := h
  refine ⟨⟨progress, hinfo, htranscript.trans htalks⟩, ?_, ?_⟩
  · rwa [hdiagnostics]
  · rwa [hdiagnostics, hstage]

/-- A compile in good order may fail, but not for the order of stages. -/
theorem broken (h : compile.Stands before K) {failure : Failure} (hfailure : failure.Regular) :
    compile.Broken before failure :=
  ⟨hfailure, h.talks, h.ascending⟩

end Compile.Stands

namespace Action

/-! ## Good order is kept -/

/-- From good order with `K`, the action leads to good order with what `known` says of its value,
unless it fails for a regular reason. -/
structure Leads (setup : Setup σ π) (before : Transcript) (K : Knowledge) (action : Action σ π α)
    (known : α → Knowledge) : Prop where
  triple : Triple setup (Stands before K) action (fun value => Stands before (known value))
    (Broken before)

/-- The action keeps good order, and what is known of the stage and the flags. -/
def Orderly (setup : Setup σ π) (action : Action σ π α) : Prop :=
  ∀ before K, Leads setup before K action fun _ => K

namespace Leads

variable {known : α → Knowledge} {next : α → Action σ π β} {later : β → Knowledge}

theorem pure {value : α} (h : ∀ stage diagnostics, K stage diagnostics →
    known value stage diagnostics) : Leads setup before K (pure value) known :=
  ⟨fun _ hstands => hstands.mono h⟩

theorem fail {failure : Failure} (h : failure.Regular) :
    Leads setup before K (Action.fail failure) known :=
  ⟨fun _ hstands => hstands.broken h⟩

theorem bind {action : Action σ π α} (h : Leads setup before K action known)
    (hnext : ∀ value, Leads setup before (known value) (next value) later) :
    Leads setup before K (action >>= next) later :=
  ⟨h.triple.bind fun value => (hnext value).triple⟩

/-- An action that keeps everything known comes before another one. -/
theorem after {action : Action σ π α} (h : Orderly setup action)
    (hnext : ∀ value, Leads setup before K (next value) later) :
    Leads setup before K (action >>= next) later :=
  (h before K).bind hnext

theorem read_bind {next : Setup σ π → Action σ π α}
    (h : Leads setup before K (next setup) known) :
    Leads setup before K (MonadReader.read >>= next) known :=
  ⟨h.triple⟩

theorem mono {action : Action σ π α} (h : Leads setup before K action known)
    (hK : ∀ stage diagnostics, L stage diagnostics → K stage diagnostics)
    {more : α → Knowledge}
    (hknown : ∀ value stage diagnostics, known value stage diagnostics →
      more value stage diagnostics) : Leads setup before L action more :=
  ⟨h.triple.mono (fun _ hstands => hstands.mono hK)
    (fun value _ hstands => hstands.mono (hknown value)) fun _ _ => id⟩

theorem ite {condition : Prop} [Decidable condition] {first second : Action σ π α}
    (hfirst : Leads setup before K first known) (hsecond : Leads setup before K second known) :
    Leads setup before K (if condition then first else second) known := by
  split <;> assumption

end Leads

theorem Calm.orderly {action : Action σ π α} (h : Calm setup action) : Orderly setup action := by
  refine fun before K => ⟨fun compile hstands => ?_⟩
  refine (h compile.account compile rfl).mono (fun _ _ hsame => hstands.same hsame) ?_
  exact fun failure _ hafter => (hstands.same hafter.1).broken hafter.2

/-- Asking the engine changes nothing that is told, and the answer is one of the engine. -/
theorem ask_leads (verb : Engine.Verb) (operation : σ → Except Engine.Error α × σ) :
    Leads setup before K (Action.ask verb operation) fun answer stage diagnostics =>
      K stage diagnostics ∧ ∃ state, (operation state).1 = .ok answer := by
  refine ⟨fun compile h => ?_⟩
  rw [run_ask]
  cases hanswer : (operation compile.world.engine).1 with
  | error error => exact ⟨by simp [Failure.Regular], h.talks, h.ascending⟩
  | ok answer => exact ⟨h.talks, h.ascending, h.known, _, hanswer⟩

namespace Orderly

theorem pure {value : α} : Orderly setup (pure value : Action σ π α) :=
  Calm.pure.orderly

theorem fail {failure : Failure} (h : failure.Regular) :
    Orderly setup (Action.fail failure : Action σ π α) :=
  (Calm.fail h).orderly

theorem bind {action : Action σ π α} {next : α → Action σ π β} (h : Orderly setup action)
    (hnext : ∀ value, Orderly setup (next value)) : Orderly setup (action >>= next) :=
  fun before K => .after h fun value => hnext value before K

theorem read_bind {next : Setup σ π → Action σ π α} (h : Orderly setup (next setup)) :
    Orderly setup (MonadReader.read >>= next) :=
  fun before K => .read_bind (h before K)

theorem ite {condition : Prop} [Decidable condition] {first second : Action σ π α}
    (hfirst : Orderly setup first) (hsecond : Orderly setup second) :
    Orderly setup (if condition then first else second) := by
  split <;> assumption

theorem modify {change : Compile σ π → Compile σ π}
    (h : ∀ compile, (change compile).account = compile.account) :
    Orderly setup (modify change : Action σ π Unit) :=
  (Calm.modify h).orderly

theorem ask {verb : Engine.Verb} {operation : σ → Except Engine.Error α × σ} :
    Orderly setup (Action.ask verb operation) :=
  fun _ _ => (ask_leads verb operation).mono (fun _ _ => id) fun _ _ _ => And.left

theorem progress {text : String} : Orderly setup (Action.progress text : Action σ π Unit) := by
  refine fun before K => ⟨?_⟩
  rintro compile ⟨⟨progress, hinfo, htalks⟩, hascending, hknown⟩
  refine ⟨⟨progress ++ [⟨.info, text⟩], ?_, ?_⟩, hascending, hknown⟩
  · intro message hmessage
    rcases List.mem_append.1 hmessage with hold | hnew
    · exact hinfo message hold
    · rw [List.mem_singleton.1 hnew]
  · show compile.world.transcript ++ _ = _
    rw [htalks, List.append_assoc]

theorem install {program : Engine.Program} :
    Orderly setup (Action.install program : Action σ π Unit) :=
  .read_bind (.bind .ask fun _ => .ite (.fail (by simp [Failure.Regular])) .pure)

theorem install_temporary {program : Engine.Program} :
    Orderly setup (installTemporary program : Action σ π Unit) :=
  .bind .install fun _ => Calm.track.orderly

theorem install_product {program : Engine.Program} :
    Orderly setup (installProduct program : Action σ π Unit) :=
  .install_temporary

theorem uninstall {names : List ProgramName} :
    Orderly setup (Action.uninstall names : Action σ π Unit) := by
  cases names with
  | nil => exact .pure
  | cons first rest =>
    refine .read_bind (.bind .ask fun _ => ?_)
    exact .ite (.modify fun _ => rfl) (.fail (by simp [Failure.Regular]))

theorem ensure_support {modules : List SupportModule} :
    Orderly setup (ensureSupport modules : Action σ π Unit) := by
  induction modules with
  | nil => exact .pure
  | cons module rest ih =>
    refine .read_bind (.bind Calm.get.orderly fun compile => .ite ?_ ih)
    refine .bind (Calm.of_except (by simp [Failure.Regular])).orderly fun (program, cache) => ?_
    refine .bind (.modify fun _ => rfl) fun _ => .bind .install fun _ => ?_
    exact .bind (.modify fun _ => rfl) fun _ => ih

end Orderly

/-! ## Recording flags and moving on -/

theorem add_flags_leads (flags : List Flag)
    (h : ∀ stage diagnostics, K stage diagnostics → L stage (diagnostics.addAll flags)) :
    Leads setup before K (addFlags flags) fun _ => L :=
  ⟨fun _ hstands => ⟨hstands.talks, hstands.ascending.add_all, h _ _ hstands.known⟩⟩

theorem add_flag_leads (flag : Flag)
    (h : ∀ stage diagnostics, K stage diagnostics → L stage (diagnostics.add flag)) :
    Leads setup before K (addFlag flag) fun _ => L :=
  ⟨fun _ hstands => ⟨hstands.talks, hstands.ascending.add, h _ _ hstands.known⟩⟩

/-- A move to another stage is not refused where the order of stages allows it. -/
theorem advance_leads {next : Stage}
    (h : ∀ stage diagnostics, K stage diagnostics →
      stage.leadsTo next = true ∧ L next diagnostics) :
    Leads setup before K (advance next) fun _ => L := by
  refine ⟨fun compile hstands => ?_⟩
  obtain ⟨hleads, hknown⟩ := h _ _ hstands.known
  have hadvance : compile.product.stage.advance next = .ok next := if_pos hleads
  have hrun : (advance next).run setup compile =
      (ofExcept .stage (compile.product.stage.advance next) >>= fun stage =>
        modifyProduct fun product => { product with stage } : Action σ π Unit).run setup compile :=
    rfl
  rw [hrun, hadvance]
  exact ⟨hstands.talks, hstands.ascending, hknown⟩

end Action

end MachineCompiler
