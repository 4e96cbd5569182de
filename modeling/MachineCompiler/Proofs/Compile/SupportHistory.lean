import MachineCompiler.Engine.Sample
import MachineCompiler.Proofs.Compile.History
import MachineCompiler.Proofs.Compile.SingleFile
import MachineCompiler.Proofs.Compile.Supply

/-!
# Support modules over time

Through any sequence of compiles, whatever fails in them and however the files change in between, a
support module is installed with success at most once and not removed afterwards. It is installed
with the text that its file had when it was first read, by whatever compiler that was.
-/

namespace MachineCompiler

open Action
open Engine (Exchange Ledger Program logged)

variable {σ π : Type}

/-! ## What phases read -/

namespace Action

variable {setup : Setup σ π}

/-- Nothing but supplying support modules reaches the cache. -/
theorem upkeep_cache (setup : Setup σ π) (P : SupportCache → Prop) :
    Upkeep setup (fun (_ : Unit) compile => P compile.cache) fun _ _ => True where
  quiet h _ := h.keeps fun first second hsame hfirst => by
    have hcache : first.cache = second.cache := congrArg (fun custody => custody.2.1) hsame
    rwa [← hcache]
  query _ _ _ _ := .ask fun _ h => h
  apply _ _ := .ask fun _ h => h
  render _ _ _ := .ask fun _ h => h
  install _ _ := Triple.bind (Keeps.install fun _ h => h).triple fun _ _ h => ⟨h, trivial⟩
  uninstall _ := .read_bind (.bind (.ask fun _ h => h) fun _ => .ite (fun _ h => h) .fail)

/-- So far more was read from the files, and these have not changed. -/
def Reads (setup : Setup σ π) (files : FileSystem) (cache : SupportCache) (compile : Compile σ π) :
    Prop :=
  cache.ReadsFrom files setup.toolchain.supportDirectory compile.cache ∧ compile.world.files = files

variable {files : FileSystem} {cache : SupportCache}

theorem install_reads (program : Program) :
    Keeps setup (Reads setup files cache) (install program) :=
  .install fun _ h => h

theorem ensure_support_reads (modules : List SupportModule) :
    Keeps setup (Reads setup files cache) (ensureSupport modules) := by
  refine .ensure_support (fun module compile program cache hreads _ hload => ?_) modules
  rw [hreads.2] at hload
  exact (install_reads program).triple _ ⟨hreads.1.load hload, hreads.2⟩

theorem passive_reads {α : Type} {action : Action σ π α} (h : Passive setup action) :
    Keeps setup (Reads setup files cache) action :=
  Leaves.keeps h fun first second hsame hfirst => by
    simp only [Compile.substance, Compile.custody, Prod.mk.injEq] at hsame
    obtain ⟨⟨-, hcache, -⟩, -, -, -, hfiles⟩ := hsame
    exact ⟨hcache ▸ hfirst.1, hfiles ▸ hfirst.2⟩

theorem install_typed_model_reads :
    Keeps setup (Reads setup files cache) Phase.installTypedModel := by
  refine .bind (ensure_support_reads _) fun _ => .bind .product fun _ => ?_
  refine .bind (passive_reads .support_reference) fun transform => ?_
  refine .bind (passive_reads .root_reference) fun root => ?_
  refine .bind (.read_bind (.bind (.ask fun _ h => h) fun _ =>
    .bind (passive_reads Passive.add_flags) fun _ => .pure)) fun result => ?_
  refine .bind (passive_reads .extract_with) fun program => ?_
  exact .bind (.bind (install_reads _) fun _ _ h => h) fun _ => .pure

end Action

/-- What a phase reads in addition are files as they are when the phase begins. -/
theorem Phase.built_in_reads (setup : Setup σ π) :
    ∀ phase ∈ (Pipeline.builtIn : List (Phase σ π)), ∀ compile : Compile σ π,
      compile.cache.ReadsFrom compile.world.files setup.toolchain.supportDirectory
        (phase.run.run setup compile).2.cache := by
  intro phase hphase compile
  have hbrings := built_in_brings
    (upkeep_cache setup
      (compile.cache.ReadsFrom compile.world.files setup.toolchain.supportDirectory))
    (Q := Reads setup compile.world.files compile.cache) (fun _ hreads => ⟨(), hreads.1⟩)
    ensure_support_reads install_typed_model_reads phase hphase
  obtain ⟨-, hreads⟩ := hbrings compile ⟨.refl, rfl⟩
  exact hreads

/-! ## One module -/

/-- A module that is not marked is tried. When it cannot be read, nothing changes. When it cannot be
installed, it is not marked, and what was read is kept. -/
theorem Action.ensure_support_tries (setup : Setup σ π) (compile : Compile σ π)
    {module : SupportModule} (hnew : module ∉ compile.installed.support)
    (rest : List SupportModule) :
    (∀ reason, compile.cache.load compile.world.files module setup.toolchain.supportDirectory =
        .error reason →
      (ensureSupport (module :: rest)).run setup compile =
        (.error (.compiler (.support module reason)), compile)) ∧
    (∀ program cache answer engine,
      compile.cache.load compile.world.files module setup.toolchain.supportDirectory =
        .ok (program, cache) →
      setup.engine.install program compile.world.engine = (answer, engine) →
        let asked := { compile with cache, world := { compile.world with engine } }
        (Engine.carriedOut answer = true → (ensureSupport (module :: rest)).run setup compile =
          (ensureSupport rest).run setup
            { asked with installed := asked.installed.markSupport module }) ∧
        (Engine.carriedOut answer = false → ∃ failure,
          (ensureSupport (module :: rest)).run setup compile = (.error failure, asked))) := by
  rw [run_ensure_support_unmarked hnew]
  constructor
  · intro reason hload
    rw [hload]
  · intro program cache answer engine hload hanswer asked
    rw [hload]
    dsimp only
    rw [run_bind, run_install, hanswer]
    rcases answer with error | outcome
    · exact ⟨nofun, fun _ => ⟨_, rfl⟩⟩
    · dsimp only [Engine.carriedOut]
      constructor <;> intro hsucceeded <;> rw [hsucceeded]
      · rfl
      · exact ⟨_, rfl⟩

/-! ## Sequences of compiles -/

/-- The later session comes from the first one by compiles. Between them everything outside the
compiler may change except what is installed in the engine and what it was asked, and other
compilers may read support modules into the cache. -/
inductive Session.LeadsTo (compiler : Compiler (σ × List (Exchange σ)) π) (ledger : Ledger σ)
    (first : Session (σ × List (Exchange σ)) π) : Session (σ × List (Exchange σ)) π → Prop where
  | refl : LeadsTo compiler ledger first first
  | compile {session : Session (σ × List (Exchange σ)) π}
      (hleads : LeadsTo compiler ledger first session) (options : Options) (input : Path) :
      LeadsTo compiler ledger first (compiler.compile options input session).2
  | between {session : Session (σ × List (Exchange σ)) π}
      (hleads : LeadsTo compiler ledger first session) {world : World (σ × List (Exchange σ)) π}
      (hsame : ledger.Same session.world.engine.1 world.engine.1)
      (hlog : world.engine.2 = session.world.engine.2) :
      LeadsTo compiler ledger first { session with world }
  | load {session : Session (σ × List (Exchange σ)) π}
      (hleads : LeadsTo compiler ledger first session) {files : FileSystem} {module : SupportModule}
      {directory : Path} {program : Program} {cache : SupportCache}
      (hload : session.cache.load files module directory = .ok (program, cache)) :
      LeadsTo compiler ledger first { session with cache }

variable {engine : ModelEngine σ} {ledger : Ledger σ}
  {compiler : Compiler (σ × List (Exchange σ)) π}
  {earlier later : Session (σ × List (Exchange σ)) π} {first : SupportCache}
  {start : List (Exchange σ)}

/-- What holds of the support modules between compiles. -/
structure Session.Provides (compiler : Compiler (σ × List (Exchange σ)) π) (ledger : Ledger σ)
    (first : SupportCache) (start : List (Exchange σ))
    (session : Session (σ × List (Exchange σ)) π) : Prop where
  exact : session.Exact ledger.logged compiler
  provides : session.begin.Provides compiler.toolchain.supportDirectory first start
    session.installed.support

/-- It holds in every session that follows. -/
theorem Session.LeadsTo.provides (hengine : compiler.engine = logged engine)
    (h : engine.KeepsTo ledger) (hleads : earlier.LeadsTo compiler ledger later)
    (hprovides : earlier.Provides compiler ledger first start) :
    later.Provides compiler ledger first start := by
  induction hleads with
  | refl => exact hprovides
  | @compile session _ options input ih =>
    have hkeeps : compiler.engine.KeepsTo ledger.logged := by
      rw [hengine]
      exact Engine.logged_keeps_to h
    have hsetup : (compiler.setup options input).engine = logged engine := hengine
    have hexact : session.begin.Exact ledger.logged (compiler.setup options input) := ih.exact
    have hafter := Compiler.run_phases_provides hsetup h hexact ih.provides
    exact ⟨compile_exact hkeeps ih.exact options input, { hafter with }⟩
  | between _ hsame hlog ih =>
    exact ⟨ih.exact.same hsame, { ih.provides with
      later := hlog ▸ ih.provides.later
      supplied := hlog ▸ ih.provides.supplied }⟩
  | load _ hload ih =>
    exact ⟨ih.exact.with_cache (ih.exact.faithful.load hload).2.2, ih.provides.load hload⟩

/-- It holds before the first compile. -/
theorem Session.start_provides {world : World (σ × List (Exchange σ)) π}
    (hsound : ledger.sound world.engine.1) (hempty : ledger.installed world.engine.1 = [])
    (hlog : world.engine.2 = []) :
    (Session.start world).Provides compiler ledger .empty [] where
  exact := .start hsound hempty
  provides := {
    faithful := by simp [Session.begin, Session.start, SupportCache.Faithful, SupportCache.empty]
    sourced := by simp [Session.begin, Session.start, SupportCache.Sourced, SupportCache.empty]
    grows := fun _ _ => id
    later := List.nil_prefix
    supplied := by
      show SuppliedOnce _ _ [] world.engine.2
      rw [hlog]
      exact .start }

/-- What follows a session has its cache and its exchanges to start with. -/
theorem Session.Provides.from_here (h : earlier.Provides compiler ledger first start) :
    earlier.Provides compiler ledger earlier.cache earlier.world.engine.2 :=
  ⟨h.exact, { h.provides with grows := fun _ _ => id, later := List.prefix_rfl }⟩

/-- Through any sequence of compiles, wherever they fail and however the files change in between,
every support module is installed with success at most once and not removed afterwards. The text
that is installed is the one that was read first, and it was read from the files at that time. A
module that could not be read or installed is not marked, and a module that is not marked is tried
whenever it is needed. -/
theorem support_is_supplied_once (hengine : compiler.engine = logged engine)
    (h : engine.KeepsTo ledger) {world : World (σ × List (Exchange σ)) π}
    (hsound : ledger.sound world.engine.1) (hempty : ledger.installed world.engine.1 = [])
    (hlog : world.engine.2 = []) (hearlier : (Session.start world).LeadsTo compiler ledger earlier)
    (hlater : earlier.LeadsTo compiler ledger later) :
    SuppliedOnce compiler.toolchain.supportDirectory later.cache later.installed.support
        later.world.engine.2 ∧
      (earlier.cache.Grows later.cache ∧ earlier.world.engine.2 <+: later.world.engine.2) ∧
      (∀ options input, ∀ phase ∈ Pipeline.builtIn, ∀ compile : Compile (σ × List (Exchange σ)) π,
        compile.cache.ReadsFrom compile.world.files compiler.toolchain.supportDirectory
          (phase.run.run (compiler.setup options input) compile).2.cache) ∧
      ∀ options input module rest compile, module ∉ compile.installed.support →
        let ensured := (ensureSupport (module :: rest)).run (compiler.setup options input) compile
        let loaded := compile.cache.load compile.world.files module
          compiler.toolchain.supportDirectory
        (∀ reason, loaded = .error reason →
          ensured = (.error (.compiler (.support module reason)), compile)) ∧
        ∀ program cache answer state, loaded = .ok (program, cache) →
          compiler.engine.install program compile.world.engine = (answer, state) →
            let asked := { compile with cache, world := { compile.world with engine := state } }
            (Engine.carriedOut answer = true → ensured =
              (ensureSupport rest).run (compiler.setup options input)
                { asked with installed := asked.installed.markSupport module }) ∧
            (Engine.carriedOut answer = false → ∃ failure, ensured = (.error failure, asked)) := by
  have hbefore := hearlier.provides hengine h (Session.start_provides hsound hempty hlog)
  have hafter := (hlater.provides hengine h hbefore.from_here).provides
  refine ⟨hafter.supplied, ⟨hafter.grows, hafter.later⟩, ?_, ?_⟩
  · exact fun options input => Phase.built_in_reads (compiler.setup options input)
  · exact fun options input module rest compile hnew =>
      ensure_support_tries (compiler.setup options input) compile hnew rest

/-- The connection to the engine is lost while the second support module is installed, and the file
of that module is changed before the next compile. The first module is left alone from then on, and
of the second one nothing is installed but the text that was read before. -/
theorem support_is_supplied_after_lost_install :
    let lost : Engine.Interference :=
      ⟨.install, some 2, some "connection lost", .success, [], none, none, []⟩
    let compiler :=
      SingleMachine.compiler (logged (Engine.interfered (Engine.inMemory Engine.Sample.rules)))
    let directory := Path.ofString "/toolchain"
    let earlier := (compiler.compile .default (.ofString "main.p")
      (SingleMachine.session "main.p" (⟨[lost], fun _ => 0, .empty⟩, []))).2
    let files := earlier.world.files.lay (.ofString "/toolchain/C.4ml")
      (.file (.text "domain D { }\n") .plain)
    let later := (compiler.compile .default (.ofString "main.p")
      { earlier with world := { earlier.world with files } }).2
    earlier.installed.support = [.sourceDomain] ∧
      (∃ exchanges, later.world.engine.2 = earlier.world.engine.2 ++ exchanges ∧
        ∀ exchange ∈ exchanges, ¬exchange.Supplies directory .sourceDomain ∧
          ¬exchange.Withdraws directory .sourceDomain) ∧
      ∀ exchange ∈ later.world.engine.2, ∀ program, exchange.request = .install program →
        program.source ≠ none → SupportModule.targetDomain.IsIn directory program.name →
          program.source = some "domain C { }\n" := by
  intro lost compiler directory earlier files later
  have hfirst : earlier.installed.support = [.sourceDomain] ∧
      (earlier.cache.find? (SupportModule.targetDomain.location directory)).map Program.source =
        some (some "domain C { }\n") := by
    simp only [earlier, Compiler.compile, Session.ofCompile]
    rw [SingleMachine.main_is_plain.run_phases_eq _ _ rfl]
    decide +kernel
  obtain ⟨hmarked, hread⟩ := hfirst
  obtain ⟨program, hfound, hsource⟩ := Option.map_eq_some_iff.1 hread
  have hengine : compiler.engine =
      logged (Engine.interfered (Engine.inMemory Engine.Sample.rules)) := rfl
  have hkeeps := Engine.interfered_keeps_to (Engine.in_memory_keeps_to Engine.Sample.rules)
  have hsound : Engine.Memory.ledger.interfered.sound ⟨[lost], fun _ => 0, .empty⟩ :=
    ⟨trivial, by simp [Engine.Interference.Harmless, lost]⟩
  have hearlier : (SingleMachine.session "main.p" (⟨[lost], fun _ => 0, .empty⟩, [])).LeadsTo
      compiler Engine.Memory.ledger.interfered earlier :=
    .compile .refl .default (.ofString "main.p")
  have hbefore := hearlier.provides hengine hkeeps (Session.start_provides hsound rfl rfl)
  clear_value earlier
  have hchanged : earlier.LeadsTo compiler Engine.Memory.ledger.interfered
      { earlier with world := { earlier.world with files } } :=
    .between .refl ⟨hbefore.exact.sound, rfl⟩ rfl
  have hlater : earlier.LeadsTo compiler Engine.Memory.ledger.interfered later :=
    hchanged.compile .default (.ofString "main.p")
  obtain ⟨hsupplied, ⟨hgrows, exchanges, hlog⟩, -⟩ :=
    support_is_supplied_once hengine hkeeps hsound rfl rfl hearlier hlater
  refine ⟨hmarked, ⟨exchanges, hlog.symm, fun exchange hexchange => ?_⟩, ?_⟩
  · obtain ⟨supplier, hsupplier, hsupplies⟩ :=
      (hbefore.provides.supplied.marked .sourceDomain).1 (hmarked ▸ List.mem_singleton_self _)
    have honce := hlog ▸ hsupplied.once
    exact (List.pairwise_append.1 honce).2.2 supplier hsupplier exchange hexchange _ hsupplies
  · intro exchange hexchange installed hrequest hsourced hin
    obtain ⟨module, hin', hfound'⟩ := hsupplied.read exchange hexchange installed hrequest hsourced
    obtain rfl := hin.unique hin'
    have hsame : some program = some installed := (hgrows _ _ hfound).symm.trans hfound'
    rw [← Option.some.inj hsame, hsource]

end MachineCompiler
