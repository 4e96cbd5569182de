import MachineCompiler.Proofs.Compile.Agreement
import MachineCompiler.Proofs.Compile.Parallel
import MachineCompiler.Proofs.Compile.Tracking
import MachineCompiler.Proofs.FileSystem.Growth
import MachineCompiler.Proofs.Source.Replay
import Mathlib.Data.List.Forall2

/-!
# Compiles that cannot be told apart

Two compiles with an engine in memory may differ in the support modules that are marked and
installed, in what the cache holds and in their clocks, and still go on in the same way. `Twins` is
the relation between them that every action keeps.
-/

namespace MachineCompiler

open Engine (Memory Program Rules inMemory)
open SupportModule (isAnyIn)

variable {σ π α : Type}

/-! ## What compiles say -/

/-- The message about the time that a phase took. -/
def Message.timing (phase : String) (milliseconds : Nat) : Message :=
  ⟨.info, phase ++ ": " ++ Plugin.seconds milliseconds ++ "s"⟩

/-- The messages are the same, or tell about the time that one phase took. -/
inductive Message.Alike : Message → Message → Prop where
  | same (message : Message) : Alike message message
  | timing (phase : String) (first second : Nat) :
    Alike (Message.timing phase first) (Message.timing phase second)

/-- The same was said after two transcripts, times aside. -/
def Transcript.Follow (start start' first second : Transcript) : Prop :=
  ∃ said said', first = start ++ said ∧ second = start' ++ said' ∧
    List.Forall₂ Message.Alike said said'

namespace Transcript

variable {start start' first second : Transcript}

theorem Follow.refl (start start' : Transcript) : Follow start start' start start' :=
  ⟨[], [], (List.append_nil _).symm, (List.append_nil _).symm, .nil⟩

/-- Saying the same again, the transcripts still follow. -/
theorem Follow.append (h : Follow start start' first second) {said said' : Transcript}
    (halike : List.Forall₂ Message.Alike said said') :
    Follow start start' (first ++ said) (second ++ said') := by
  obtain ⟨before, before', rfl, rfl, hbefore⟩ := h
  exact ⟨before ++ said, before' ++ said', List.append_assoc _ _ _, List.append_assoc _ _ _,
    List.rel_append hbefore halike⟩

theorem forall_alike (said : Transcript) : List.Forall₂ Message.Alike said said :=
  List.forall₂_same.2 fun message _ => .same message

end Transcript

/-! ## Twins -/

/-- Outside of the engine, and as far as the compile has come, all is the same; `start` and `start'`
are the worlds in which the compiles began. Every support file can be read, and the root file, once
it is known, is none of them. -/
structure Outside (setup : Setup σ π) (start start' : World σ π) (first second : Compile σ π) :
    Prop where
  files : first.world.files = second.world.files
  readable : ∀ module : SupportModule, ∃ text,
    first.world.files.readText (module.location setup.toolchain.supportDirectory) = .ok text
  place : first.world.currentDirectory = start.currentDirectory
  parsers : setup.parser.Alike first.world.parser second.world.parser
  transcripts : Transcript.Follow start.transcript start'.transcript first.world.transcript
    second.world.transcript
  launches : ∃ launched, first.world.launches = start.launches ++ launched ∧
    second.world.launches = start'.launches ++ launched
  product : first.product = second.product
  root : ∀ root, first.product.root = some root →
    isAnyIn setup.toolchain.supportDirectory root = false

/-- The engines agree, and the same programs are tracked, none of them a support program. -/
structure Inside (setup : Setup Memory π) (first second : Compile Memory π) : Prop where
  engines : Memory.Agree setup.toolchain.supportDirectory first.world.engine second.world.engine
  programs : first.installed.programs = second.installed.programs
  tracked : ∀ name, first.installed.contains name = true →
    isAnyIn setup.toolchain.supportDirectory name = false

/-- The compiles cannot be told apart, their records are exact, and the `known` support modules are
marked in both. -/
structure Twins (setup : Setup Memory π) (start start' : World Memory π)
    (known : List SupportModule) (first second : Compile Memory π) : Prop where
  outside : Outside setup start start' first second
  inside : Inside setup first second
  exact : first.Exact Memory.ledger setup
  exact' : second.Exact Memory.ledger setup
  marked : ∀ module ∈ known, module ∈ first.installed.support
  marked' : ∀ module ∈ known, module ∈ second.installed.support

/-- Fewer modules may be known to be marked. -/
theorem Twins.mono {setup : Setup Memory π} {start start' : World Memory π}
    {known known' : List SupportModule} {first second : Compile Memory π}
    (h : Twins setup start start' known first second)
    (hknown : ∀ module ∈ known', module ∈ known) : Twins setup start start' known' first second :=
  { h with
    marked := fun module hmodule => h.marked module (hknown module hmodule)
    marked' := fun module hmodule => h.marked' module (hknown module hmodule) }

/-- The relation looks at the engine and the records about it only. -/
theorem Inside.congr {setup : Setup Memory π} {first second first' second' : Compile Memory π}
    (h : Inside setup first second) (hfirst : first'.custody = first.custody)
    (hsecond : second'.custody = second.custody) : Inside setup first' second' := by
  simp only [Compile.custody, Prod.mk.injEq] at hfirst hsecond
  obtain ⟨hengine, _, hinstalled⟩ := hfirst
  obtain ⟨hengine', _, hinstalled'⟩ := hsecond
  refine ⟨?_, ?_, ?_⟩
  · rw [hengine, hengine']; exact h.engines
  · rw [hinstalled, hinstalled']; exact h.programs
  · rw [hinstalled]; exact h.tracked

namespace Action

/-! ## Actions that leave the engine alone -/

variable {setup : Setup σ π} {start start' : World σ π}

/-- A change of what the compile has produced is steady unless it makes a support program the root
file. -/
theorem modify_product_outside {change : Product → Product}
    (hroot : ∀ product root, (change product).root = some root →
      product.root = some root ∨ isAnyIn setup.toolchain.supportDirectory root = false) :
    Steady setup (Outside setup start start') (modifyProduct change) := by
  refine fun first second h => ?_
  have hafter : Outside setup start start' { first with product := change first.product }
      { second with product := change second.product } :=
    { h with
      product := congrArg change h.product
      root := fun root hsome => (hroot first.product root hsome).elim (h.root root) id }
  exact .value hafter

theorem add_flag_outside (flag : Flag) :
    Steady setup (Outside setup start start') (addFlag flag) :=
  modify_product_outside fun _ _ => .inl

theorem add_flags_outside (flags : List Flag) :
    Steady setup (Outside setup start start') (addFlags flags) :=
  modify_product_outside fun _ _ => .inl

theorem product_outside : Steady setup (Outside setup start start') Action.product := by
  refine Parallel.get_bind fun first second h => ?_
  rw [h.product]
  exact Steady.pure

theorem progress_outside (text : String) :
    Steady setup (Outside setup start start') (progress text) :=
  .in_world fun _ _ h => ⟨rfl, { h with
    transcripts := h.transcripts.append (Transcript.forall_alike _) }⟩

theorem advance_outside (next : Stage) :
    Steady setup (Outside setup start start') (advance next) :=
  .bind product_outside fun _ => .bind .of_except fun _ => modify_product_outside fun _ _ => .inl

/-- Writing a file goes the same way on the same files, and support files stay readable. -/
theorem in_world_save_outside (path : Path) (text : String) :
    Steady setup (Outside setup start start') (inWorld (World.save · path text)) := by
  refine .in_world fun first second h => ?_
  have hsaved : first.world.files.save path text = second.world.files.save path text := by
    rw [h.files]
  have herror : (first.world.save path text).1 = (second.world.save path text).1 := by
    unfold World.save
    rw [hsaved]
  have hgrows := FileSystem.grows_save first.world.files path text
  refine ⟨herror, { h with
    files := congrArg Prod.snd hsaved
    readable := fun module => ?_
    place := (congrArg Path.through hgrows.current).trans h.place }⟩
  obtain ⟨held, hread⟩ := h.readable module
  exact hgrows.read_text hread

theorem save_outside (path : Path) (text : String) :
    Steady setup (Outside setup start start') (save path text) := by
  refine .bind (in_world_save_outside path text) fun error => ?_
  cases error with
  | some reason => exact .fail
  | none => exact .pure

/-- The root file is the same in both compiles and no support program. -/
theorem root_outside :
    Yields setup (Outside setup start start') root
      (isAnyIn setup.toolchain.supportDirectory · = false) := by
  intro first second h
  rw [run_root, run_root, ← h.product]
  cases hroot : first.product.root with
  | none => exact .failure h
  | some root => exact .value ⟨h, h.root root hroot⟩

theorem output_directory_outside :
    Steady setup (Outside setup start start') outputDirectory := by
  refine .read_bind (.get_bind fun first second h => ?_)
  rw [show first.world.currentDirectory = second.world.currentDirectory by
    rw [World.currentDirectory, h.files]; rfl]
  exact Steady.pure

theorem output_base_outside : Steady setup (Outside setup start start') outputBase :=
  .read_bind (.bind root_outside.steady fun _ => .pure)

theorem root_reference_outside : Steady setup (Outside setup start start') rootReference :=
  .bind root_outside.steady fun _ => .bind product_outside fun _ => .pure

/-- A program that is kept in the output directory in a file for a model is no support program. -/
theorem output_program_outside (module : String) :
    Yields setup (Outside setup start start') (outputProgram (module ++ ".model"))
      (isAnyIn setup.toolchain.supportDirectory · = false) :=
  output_directory_outside.yields.bind fun _ _ =>
    .of_except fun _ hname => SupportModule.is_any_in_of_model hname

theorem extract_with_outside (aliasStart module : String) (result : Engine.ApplyResult) :
    Yields setup (Outside setup start start') (extractWith aliasStart result module)
      (isAnyIn setup.toolchain.supportDirectory ·.name = false) := by
  refine (output_program_outside module).bind fun name hname => ?_
  cases hprogram : result.extract? module name aliasStart with
  | none => exact Parallel.fail fun _ _ h => h
  | some program =>
    have hsame : program.name = name := by
      obtain ⟨model, -, rfl⟩ := Option.map_eq_some_iff.1 hprogram
      rfl
    exact Parallel.pure fun _ _ h => ⟨h, (congrArg (isAnyIn _) hsame).trans hname⟩

/-- Running a program goes the same way on the same files. -/
theorem launch_outside (path : Path) (arguments : List Path) :
    Steady setup (Outside setup start start') (inWorld (World.launch · path arguments)) := by
  refine .in_world fun first second h => ?_
  have hreport : first.world.files.launch path arguments =
      second.world.files.launch path arguments := by
    rw [h.files]
  unfold World.launch
  rw [hreport]
  cases second.world.files.launch path arguments with
  | error error => exact ⟨rfl, h⟩
  | ok report =>
    obtain ⟨launched, hlaunched, hlaunched'⟩ := h.launches
    refine ⟨rfl, { h with launches := ⟨launched ++ [arguments.map Path.shown], ?_, ?_⟩ }⟩
    · rw [hlaunched, List.append_assoc]
    · rw [hlaunched', List.append_assoc]

end Action

end MachineCompiler
