import MachineCompiler.Proofs.Engine.Readiness
import Mathlib.Data.List.Induction
import Mathlib.Data.List.Pairwise

/-!
# Sessions with the engine in memory

Whatever is asked of the engine in memory, and whatever it is told to refuse in between, it holds
the programs that were installed and not removed since, in the order of their installation and
under different names. An operation is carried out as a whole or not at all, and what was refused
was not even started.
-/

namespace MachineCompiler.Engine

/-- What the engine in memory is told: a request, or the operation to be refused from now on. -/
inductive Command where
  | ask (request : Request)
  | refuse (verb : Option Verb)

/-- The request of a command. -/
def Command.request? : Command → Option Request
  | .ask request => some request
  | .refuse _ => none

/-- The memory and the log after a command. -/
def Command.carryOut (rules : Rules) (state : Memory × List (Exchange Memory)) :
    Command → Memory × List (Exchange Memory)
  | .ask request => ((logged (inMemory rules)).respond state request).2
  | .refuse verb => ({ state.1 with refused := verb }, state.2)

/-- The memory and the log of a session, which begins with nothing installed. -/
def session (rules : Rules) (commands : List Command) : Memory × List (Exchange Memory) :=
  commands.foldl (Command.carryOut rules) (.empty, [])

/-- What the engine in memory writes down when it starts an operation. -/
def Request.call : Request → Call
  | .install program => .install program.name
  | .uninstall names => .uninstall names
  | .query name module _ => .query name module
  | .apply step => .apply step.transform.name
  | .render name module => .render name module

/-- An install or uninstall was carried out. -/
def Answer.carriedOut : Answer → Bool
  | .installed outcome | .uninstalled outcome => outcome.succeeded
  | _ => false

/-- An answer that is no outcome of an install or uninstall says nothing about one. -/
theorem not_carried_out {α : Type} {verb : Verb} {keep : α → Answer} {result : Except Error α}
    (h : ∀ value, (keep value).carriedOut = false) :
    (Answer.ofResult verb keep result).carriedOut = false := by
  cases result with
  | ok value => exact h value
  | error => rfl

/-- The operation was started. -/
def Exchange.started (exchange : Exchange Memory) : Bool :=
  exchange.state.refused != some exchange.request.verb

/-- The programs that were installed and not removed since, in the order of their installation. -/
def survivors {σ : Type} : List (Exchange σ) → List Program
  | [] => []
  | exchange :: later =>
    (exchange.installed?.filter fun program => !later.any (·.uninstalls program.name)).toList ++
      survivors later

/-- The programs that survive one more exchange. -/
theorem survivors_append {σ : Type} (log : List (Exchange σ)) (exchange : Exchange σ) :
    survivors (log ++ [exchange]) =
      (survivors log).filter (fun program => !exchange.uninstalls program.name) ++
        exchange.installed?.toList := by
  induction log with
  | nil => cases h : exchange.installed? <;> simp [survivors, h]
  | cons first later ih =>
    rw [List.cons_append, survivors, survivors, ih, List.filter_append, List.append_assoc]
    congr 1
    cases first.installed? with
    | none => rfl
    | some program =>
      cases hlater : later.any (·.uninstalls program.name) <;>
        cases huninstalls : exchange.uninstalls program.name <;>
          simp [Option.filter_some, hlater, huninstalls]

namespace Memory

variable {rules : Rules} {memory : Memory}

/-- What the engine in memory makes of a request. -/
inductive Handles (memory : Memory) : Request → Answer → Memory → Prop where
  | refused {request : Request} (h : memory.refused = some request.verb) :
      Handles memory request (.failed request.verb (.notStarted request.verb)) memory
  | installed {program : Program} (hstarted : memory.refused ≠ some .install)
      (hnew : memory.isInstalled program.name = false) :
      Handles memory (.install program) (.installed .success)
        { memory.record (.install program.name) with installed := memory.installed ++ [program] }
  | duplicate {program : Program} {outcome : InstallOutcome}
      (hstarted : memory.refused ≠ some .install)
      (hheld : memory.isInstalled program.name = true) (hfailed : outcome.succeeded = false) :
      Handles memory (.install program) (.installed outcome)
        (memory.record (.install program.name))
  | uninstalled {names : List ProgramName} (hstarted : memory.refused ≠ some .uninstall)
      (hheld : ∀ name ∈ names, memory.isInstalled name = true) :
      Handles memory (.uninstall names) (.uninstalled .success)
        { memory.record (.uninstall names) with installed := without memory.installed names }
  | missing {names : List ProgramName} {name : ProgramName} {outcome : InstallOutcome}
      (hstarted : memory.refused ≠ some .uninstall) (hmem : name ∈ names)
      (hmissing : memory.isInstalled name = false) (hfailed : outcome.succeeded = false) :
      Handles memory (.uninstall names) (.uninstalled outcome) (memory.record (.uninstall names))
  | looked {request : Request} {answer : Answer} (hstarted : memory.refused ≠ some request.verb)
      (hinstall : request.verb ≠ .install) (huninstall : request.verb ≠ .uninstall) :
      Handles memory request answer (memory.record request.call)

/-- The engine in memory makes of every request what it is to make of it. -/
theorem handles (rules : Rules) (memory : Memory) (request : Request) :
    memory.Handles request ((inMemory rules).respond memory request).1
      ((inMemory rules).respond memory request).2 := by
  by_cases hrefused : memory.refused = some request.verb
  · have hresponse : (inMemory rules).respond memory request =
        (.failed request.verb (.notStarted request.verb), memory) := by
      cases request <;> simp only [Request.verb] at hrefused <;>
        simp only [ModelEngine.respond, inMemory, start, if_pos hrefused] <;> rfl
    rw [hresponse]
    exact .refused hrefused
  · cases request with
    | install program =>
      have hstarted : memory.refused ≠ some .install := hrefused
      cases hheld : memory.isInstalled program.name with
      | false =>
        rw [ModelEngine.respond, install_ready hheld, if_neg hstarted]
        exact .installed hstarted hheld
      | true =>
        have hagain : (memory.record (.install program.name)).isInstalled program.name = true :=
          hheld
        simp only [ModelEngine.respond, inMemory, start, if_neg hstarted, installProgram, hagain]
        exact .duplicate hstarted hheld rfl
    | uninstall names =>
      have hstarted : memory.refused ≠ some .uninstall := hrefused
      cases hmissing : names.find? fun name => !memory.isInstalled name with
      | none =>
        have hheld : ∀ name ∈ names, memory.isInstalled name = true := by
          simpa using List.find?_eq_none.1 hmissing
        rw [ModelEngine.respond, uninstall_ready hheld, if_neg hstarted]
        exact .uninstalled hstarted hheld
      | some name =>
        have hname : memory.isInstalled name = false := by
          simpa using List.find?_some hmissing
        have hagain : names.find? (fun name =>
            !(memory.record (.uninstall names)).isInstalled name) = some name := hmissing
        simp only [ModelEngine.respond, inMemory, start, if_neg hstarted, uninstallPrograms, hagain]
        exact .missing hstarted (List.mem_of_find?_eq_some hmissing) hname rfl
    | query name module goals =>
      have hstarted : memory.refused ≠ some .query := hrefused
      simp only [ModelEngine.respond, inMemory, start, if_neg hstarted]
      exact .looked hrefused (by simp [Request.verb]) (by simp [Request.verb])
    | apply step =>
      have hstarted : memory.refused ≠ some .apply := hrefused
      simp only [ModelEngine.respond, inMemory, start, if_neg hstarted]
      exact .looked hrefused (by simp [Request.verb]) (by simp [Request.verb])
    | render name module =>
      have hstarted : memory.refused ≠ some .render := hrefused
      simp only [ModelEngine.respond, inMemory, start, if_neg hstarted]
      exact .looked hrefused (by simp [Request.verb]) (by simp [Request.verb])

variable {request : Request} {answer : Answer} {after : Memory}

/-- The installed programs change as the exchange says. -/
theorem Handles.installed_eq (h : memory.Handles request answer after) :
    after.installed = memory.installed.filter
        (fun program => !(Exchange.mk memory request answer).uninstalls program.name) ++
      (Exchange.mk memory request answer).installed?.toList := by
  have hall {exchange : Exchange Memory} (hnone : ∀ name, exchange.uninstalls name = false) :
      memory.installed.filter (fun program => !exchange.uninstalls program.name) =
        memory.installed :=
    List.filter_eq_self.2 fun program _ => by rw [hnone, Bool.not_false]
  have hkept {exchange : Exchange Memory} (hnone : ∀ name, exchange.uninstalls name = false)
      (hinstalled : exchange.installed? = none) :
      memory.installed =
        memory.installed.filter (fun program => !exchange.uninstalls program.name) ++
          exchange.installed?.toList := by
    rw [hall hnone, hinstalled, Option.toList_none, List.append_nil]
  cases h with
  | refused => exact hkept (fun _ => by cases request <;> rfl) (by cases request <;> rfl)
  | installed =>
    rw [hall fun _ => rfl]
    rfl
  | duplicate _ _ hfailed =>
    exact hkept (fun _ => rfl) (by simp [Exchange.installed?, hfailed])
  | uninstalled => exact (List.append_nil _).symm
  | missing _ _ _ hfailed =>
    exact hkept (fun _ => by simp [Exchange.uninstalls, hfailed]) rfl
  | looked _ hinstall huninstall =>
    cases request with
    | install => exact absurd rfl hinstall
    | uninstall => exact absurd rfl huninstall
    | query | apply | render => exact hkept (fun _ => rfl) rfl

/-- What was started is written down, and nothing else. -/
theorem Handles.calls_eq (h : memory.Handles request answer after) :
    after.calls = memory.calls ++
      if memory.refused = some request.verb then [] else [request.call] := by
  cases h with
  | refused h => rw [if_pos h, List.append_nil]
  | installed hstarted | duplicate hstarted | uninstalled hstarted | missing hstarted
  | looked hstarted => exact congrArg (memory.calls ++ ·) (if_neg hstarted).symm

/-- Programs of different names stay so. -/
theorem Handles.distinct (h : memory.Handles request answer after)
    (hdistinct : memory.installed.Pairwise fun program other =>
      (program.name == other.name) = false) :
    after.installed.Pairwise fun program other => (program.name == other.name) = false := by
  cases h with
  | installed _ hnew =>
    refine List.pairwise_append.2 ⟨hdistinct, List.pairwise_singleton _ _, ?_⟩
    intro program hprogram other hother
    obtain rfl := List.mem_singleton.1 hother
    exact Bool.eq_false_iff.2 fun hsame =>
      Bool.eq_false_iff.1 hnew (List.any_eq_true.2 ⟨program, hprogram, hsame⟩)
  | uninstalled => exact hdistinct.filter _
  | refused | duplicate | missing | looked => exact hdistinct

/-- An operation that is refused is not started. -/
theorem Handles.refused_cases (h : memory.Handles request answer after)
    (hrefused : memory.refused = some request.verb) :
    answer = .failed request.verb (.notStarted request.verb) ∧ after = memory := by
  cases h with
  | refused => exact ⟨rfl, rfl⟩
  | installed hstarted | duplicate hstarted | uninstalled hstarted | missing hstarted
  | looked hstarted => exact absurd hrefused hstarted

/-- A started install fails exactly when a program of the name is installed. -/
theorem Handles.install_fails_iff {program : Program}
    (h : memory.Handles (.install program) answer after)
    (hstarted : memory.refused ≠ some .install) :
    ∃ outcome, answer = .installed outcome ∧
      (outcome.succeeded = false ↔ memory.isInstalled program.name = true) := by
  cases h with
  | refused hrefused => exact absurd hrefused hstarted
  | installed _ hnew => exact ⟨_, rfl, nofun, fun hheld => by rw [hnew] at hheld; contradiction⟩
  | duplicate _ hheld hfailed => exact ⟨_, rfl, fun _ => hheld, fun _ => hfailed⟩
  | looked _ hinstall => exact absurd rfl hinstall

/-- A started uninstall fails exactly when no program of one of the names is installed. -/
theorem Handles.uninstall_fails_iff {names : List ProgramName}
    (h : memory.Handles (.uninstall names) answer after)
    (hstarted : memory.refused ≠ some .uninstall) :
    ∃ outcome, answer = .uninstalled outcome ∧
      (outcome.succeeded = false ↔ ∃ name ∈ names, memory.isInstalled name = false) := by
  cases h with
  | refused hrefused => exact absurd hrefused hstarted
  | uninstalled _ hheld =>
    refine ⟨_, rfl, nofun, fun ⟨name, hmem, hmissing⟩ => ?_⟩
    rw [hheld name hmem] at hmissing
    contradiction
  | missing _ hmem hmissing hfailed =>
    exact ⟨_, rfl, fun _ => ⟨_, hmem, hmissing⟩, fun _ => hfailed⟩
  | looked _ _ huninstall => exact absurd rfl huninstall

/-- Nothing but an install or uninstall that is carried out changes what is installed. -/
theorem Handles.installed_same (h : memory.Handles request answer after)
    (hanswer : answer.carriedOut = false) : after.installed = memory.installed := by
  cases h with
  | installed | uninstalled => exact absurd hanswer nofun
  | refused | duplicate | missing | looked => rfl

end Memory

/-! ## Runs -/

/-- What holds throughout a session: the names are different, the programs are those that survive,
and the calls are the requests that were started. -/
structure Ordered (state : Memory × List (Exchange Memory)) : Prop where
  distinct : state.1.installed.Pairwise fun program other => (program.name == other.name) = false
  survive : state.1.installed = survivors state.2
  calls : state.1.calls =
    (state.2.filter Exchange.started).map fun exchange => exchange.request.call

variable {rules : Rules} {state : Memory × List (Exchange Memory)}

theorem Ordered.carry_out (h : Ordered state) (command : Command) :
    Ordered (command.carryOut rules state) := by
  cases command with
  | refuse verb => exact ⟨h.distinct, h.survive, h.calls⟩
  | ask request =>
    have hhandles := state.1.handles rules request
    rw [Command.carryOut, logged_respond]
    refine ⟨hhandles.distinct h.distinct, ?_, ?_⟩
    · rw [survivors_append, ← h.survive]
      exact hhandles.installed_eq
    · rw [List.filter_append, List.map_append, ← h.calls]
      refine hhandles.calls_eq.trans (congrArg (state.1.calls ++ ·) ?_)
      by_cases hrefused : state.1.refused = some request.verb <;>
        simp [List.filter_cons, Exchange.started, hrefused]

theorem session_append (rules : Rules) (commands : List Command) (command : Command) :
    session rules (commands ++ [command]) = command.carryOut rules (session rules commands) := by
  rw [session, List.foldl_append]
  rfl

/-- A session keeps the order. -/
theorem ordered_session (rules : Rules) (commands : List Command) :
    Ordered (session rules commands) := by
  induction commands using List.reverseRecOn with
  | nil => exact ⟨.nil, rfl, rfl⟩
  | append_singleton commands command ih =>
    rw [session_append]
    exact ih.carry_out command

/-- The log of a session has its requests. -/
theorem requests_session (rules : Rules) (commands : List Command) :
    (session rules commands).2.map Exchange.request = commands.filterMap Command.request? := by
  induction commands using List.reverseRecOn with
  | nil => rfl
  | append_singleton commands command ih =>
    rw [session_append, List.filterMap_append, ← ih]
    cases command with
    | refuse verb => exact (List.append_nil _).symm
    | ask request =>
      rw [Command.carryOut, logged_respond]
      exact List.map_append

/-- Where names are different, every installed program is found under all spellings of its name. -/
theorem Ordered.program_of_mem (h : Ordered state) {program : Program} {name : ProgramName}
    (hprogram : program ∈ state.1.installed) (hname : (program.name == name) = true) :
    state.1.program? name = some program := by
  have : Std.Symm fun program other : Program => (program.name == other.name) = false :=
    ⟨fun _ _ hne => BEq.comm.trans hne⟩
  unfold Memory.program?
  cases hfound : state.1.installed.find? fun program => program.name == name with
  | none => exact absurd hname (List.find?_eq_none.1 hfound program hprogram)
  | some found =>
    have hsame : (found.name == name) = true := by simpa using List.find?_some hfound
    have hone : found = program := by
      by_contra hne
      have happart := h.distinct.forall (List.mem_of_find?_eq_some hfound) hprogram hne
      exact Bool.eq_false_iff.1 happart (BEq.trans hsame (BEq.symm hname))
    rw [hone]

/-- Throughout every session the engine in memory is an ordered map from names to programs. It holds
the programs that were installed and not removed since, under different names and in the order of
their installation, and it has written down the operations that it started. The next operation is
carried out as a whole or changes nothing: it is not started when it is refused, an install fails
exactly when the name is taken, an uninstall exactly when one of the names is missing, and nothing
else changes what is installed. -/
theorem session_is_ordered_map (rules : Rules) (commands : List Command) :
    ∃ memory log, session rules commands = (memory, log) ∧
      log.map Exchange.request = commands.filterMap Command.request? ∧
      memory.installed = survivors log ∧
      memory.installed.Pairwise (fun program other => (program.name == other.name) = false) ∧
      (∀ program ∈ memory.installed, ∀ name, (program.name == name) = true →
        memory.program? name = some program) ∧
      memory.calls = (log.filter Exchange.started).map (fun exchange => exchange.request.call) ∧
      ∀ request, ∃ answer after,
        session rules (commands ++ [.ask request]) = (after, log ++ [⟨memory, request, answer⟩]) ∧
        (memory.refused = some request.verb →
          answer = .failed request.verb (.notStarted request.verb) ∧ after = memory) ∧
        (∀ program, request = .install program → memory.refused ≠ some .install →
          ∃ outcome, answer = .installed outcome ∧
            (outcome.succeeded = false ↔ memory.isInstalled program.name = true)) ∧
        (∀ names, request = .uninstall names → memory.refused ≠ some .uninstall →
          ∃ outcome, answer = .uninstalled outcome ∧
            (outcome.succeeded = false ↔ ∃ name ∈ names, memory.isInstalled name = false)) ∧
        (answer.carriedOut = false → after.installed = memory.installed) ∧
        (request.verb ≠ .install → request.verb ≠ .uninstall →
          after.installed = memory.installed) := by
  have hordered := ordered_session rules commands
  refine ⟨(session rules commands).1, (session rules commands).2, rfl,
    requests_session rules commands, hordered.survive, hordered.distinct,
    fun program hprogram name => hordered.program_of_mem hprogram, hordered.calls, ?_⟩
  intro request
  have hhandles := (session rules commands).1.handles rules request
  refine ⟨_, _, ?_, hhandles.refused_cases, ?_, ?_, hhandles.installed_same, ?_⟩
  · rw [session_append, Command.carryOut, logged_respond]
  · rintro program rfl
    exact hhandles.install_fails_iff
  · rintro names rfl
    exact hhandles.uninstall_fails_iff
  · intro hinstall huninstall
    refine hhandles.installed_same ?_
    cases request with
    | install => exact absurd rfl hinstall
    | uninstall => exact absurd rfl huninstall
    | query name module goals => exact not_carried_out fun _ => rfl
    | apply step => exact not_carried_out fun _ => rfl
    | render name module => exact not_carried_out fun _ => rfl

/-- A name that is listed in two spellings is removed once. The other programs stay in order. -/
example :
    let program (file : String) (h : Path.IsProperName (file.toList.map .char)) : Program :=
      .named ⟨[⟨_, h⟩]⟩
    let first := program "a.p" (by decide)
    let second := program "B.p" (by decide)
    let third := program "c.p" (by decide)
    (session .none [.ask (.install first), .ask (.install second), .ask (.install third),
      .ask (.uninstall [second.name, (program "b.P" (by decide)).name])]).1.installed.map
        (·.name.shown) = ["/a.p", "/c.p"] := by
  decide +kernel

end MachineCompiler.Engine
