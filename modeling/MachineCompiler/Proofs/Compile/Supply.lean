import MachineCompiler.Proofs.Compile.Exchanges
import MachineCompiler.Proofs.Compile.SupportNames
import MachineCompiler.Proofs.Engine.Readiness

/-!
# Supplying support modules

A support module is read when a compile needs it for the first time, and what was read stays in the
cache for good. It is installed once: after an install that was carried out it is marked, and a
marked module is neither installed again nor removed. After a failure it is not marked, and the next
compile that needs it tries again, with the text that was read first.
-/

namespace MachineCompiler

open Action
open Engine (Answer Exchange Ledger Program Request log logged)

variable {σ π α : Type}

/-! ## What was read -/

namespace SupportCache

/-- What was read before is still there. -/
def Grows (cache cache' : SupportCache) : Prop :=
  ∀ path program, cache.find? path = some program → cache'.find? path = some program

/-- What was read in addition was read from the files, at places that nothing was read from. -/
def ReadsFrom (files : FileSystem) (directory : Path) (cache cache' : SupportCache) : Prop :=
  ∃ entries, cache'.programs = cache.programs ++ entries ∧ ∀ entry ∈ entries,
    cache.find? entry.1 = none ∧ ∃ module text, entry.1 = SupportModule.location module directory ∧
      files.readText entry.1 = .ok text ∧ entry.2.source = some text

variable {cache cache' cache'' : SupportCache} {files : FileSystem} {module : SupportModule}
  {directory path : Path} {program : Program}

theorem Grows.trans (h : cache.Grows cache') (h' : cache'.Grows cache'') : cache.Grows cache'' :=
  fun path program hfound => h' path program (h path program hfound)

/-- A load finds what was read before. Only when there is nothing, it reads the file. -/
theorem load_cases (h : cache.load files module directory = .ok (program, cache')) :
    cache.find? (module.location directory) = some program ∧ cache' = cache ∨
      cache.find? (module.location directory) = none ∧
        cache'.programs = cache.programs ++ [(module.location directory, program)] ∧
          ∃ text, files.readText (module.location directory) = .ok text ∧
            program.source = some text := by
  simp only [load] at h
  split at h
  · rename_i hfound
    cases h
    exact .inl ⟨hfound, rfl⟩
  · rename_i hnone
    split at h
    · contradiction
    · rename_i text hread
      split at h
      · contradiction
      · cases h
        exact .inr ⟨hnone, rfl, text, hread, rfl⟩

/-- What is put at the end is found where nothing was. -/
theorem find_append {entries : List (Path × Program)}
    (h : cache'.programs = cache.programs ++ entries) (path : Path) :
    cache'.find? path = (cache.find? path).or (find? ⟨entries⟩ path) := by
  rw [find?, find?, find?, h, List.find?_append]
  cases cache.programs.find? fun entry => spelling entry.1 == spelling path <;> rfl

theorem grows_of_append {entries : List (Path × Program)}
    (h : cache'.programs = cache.programs ++ entries) : cache.Grows cache' := by
  intro path program hfound
  rw [find_append h, hfound, Option.some_or]

theorem ReadsFrom.grows (h : cache.ReadsFrom files directory cache') : cache.Grows cache' := by
  obtain ⟨entries, happend, -⟩ := h
  exact grows_of_append happend

theorem ReadsFrom.refl : cache.ReadsFrom files directory cache :=
  ⟨[], (List.append_nil _).symm, List.forall_mem_nil _⟩

/-- A load reads from the files. -/
theorem ReadsFrom.load (h : cache.ReadsFrom files directory cache')
    (hload : cache'.load files module directory = .ok (program, cache'')) :
    cache.ReadsFrom files directory cache'' := by
  obtain ⟨-, rfl⟩ | ⟨hnone, happend, text, hread, hsource⟩ := load_cases hload
  · exact h
  · obtain ⟨entries, hentries, hread'⟩ := h
    refine ⟨entries ++ [(module.location directory, program)], ?_, ?_⟩
    · rw [happend, hentries, List.append_assoc]
    · refine List.forall_mem_append.2 ⟨hread', List.forall_mem_singleton.2 ⟨?_, ?_⟩⟩
      · rw [find_append hentries] at hnone
        exact (Option.or_eq_none_iff.1 hnone).1
      · exact ⟨module, text, rfl, hread, hsource⟩

/-- What was loaded is found from then on. -/
theorem find_of_load (h : cache.load files module directory = .ok (program, cache')) :
    cache'.find? (module.location directory) = some program := by
  obtain ⟨hfound, rfl⟩ | ⟨hnone, happend, -⟩ := load_cases h
  · exact hfound
  · rw [find_append happend, hnone, Option.none_or]
    simp [find?]

/-- Everything that was read has a source text. -/
def Sourced (cache : SupportCache) : Prop :=
  ∀ entry ∈ cache.programs, entry.2.source ≠ none

theorem Sourced.find (hcache : cache.Sourced) (h : cache.find? path = some program) :
    program.source ≠ none := by
  obtain ⟨entry, hentry, rfl⟩ := Option.map_eq_some_iff.1 h
  exact hcache entry (List.mem_of_find?_eq_some hentry)

theorem Sourced.load (hcache : cache.Sourced)
    (h : cache.load files module directory = .ok (program, cache')) : cache'.Sourced := by
  obtain ⟨-, rfl⟩ | ⟨-, happend, text, -, hsource⟩ := load_cases h
  · exact hcache
  · rw [Sourced, happend]
    exact List.forall_mem_append.2 ⟨hcache, List.forall_mem_singleton.2 (by simp [hsource])⟩

theorem grows_load (h : cache.load files module directory = .ok (program, cache')) :
    cache.Grows cache' :=
  (ReadsFrom.refl.load h).grows

end SupportCache

/-! ## What was installed -/

namespace Engine.Exchange

variable {directory : Path} {module : SupportModule} {exchange : Exchange σ}

/-- The text of the support module was installed. -/
def Supplies (exchange : Exchange σ) (directory : Path) (module : SupportModule) : Prop :=
  ∃ program, exchange.installed? = some program ∧ program.source ≠ none ∧
    module.IsIn directory program.name

/-- The program of the support module was to be removed, together with others or alone. -/
def Withdraws (exchange : Exchange σ) (directory : Path) (module : SupportModule) : Prop :=
  ∃ names, exchange.request = .uninstall names ∧ ∃ name ∈ names, module.IsIn directory name

/-- No program is installed that has a source text. -/
def Blank (exchange : Exchange σ) : Prop :=
  ∀ program, exchange.request = .install program → program.source = none

theorem installed_eq {program : Program} (h : exchange.installed? = some program) :
    exchange.request = .install program := by
  unfold installed? at h
  split at h
  · rename_i hrequest hanswer
    split at h
    · rw [hrequest, Option.some.inj h]
    · contradiction
  · contradiction

theorem Blank.not_supplies (h : exchange.Blank) : ¬exchange.Supplies directory module := by
  rintro ⟨program, hinstalled, hsource, -⟩
  exact hsource (h program (installed_eq hinstalled))

end Engine.Exchange

/-- The marked support modules are those that were supplied. After that none of them was supplied
again or withdrawn, and every source text that was to be installed is that of a support module as it
was read first. -/
structure SuppliedOnce (directory : Path) (cache : SupportCache) (support : List SupportModule)
    (exchanges : List (Exchange σ)) : Prop where
  marked : ∀ module, module ∈ support ↔ ∃ exchange ∈ exchanges, exchange.Supplies directory module
  once : exchanges.Pairwise fun exchange next => ∀ module, exchange.Supplies directory module →
    ¬next.Supplies directory module ∧ ¬next.Withdraws directory module
  read : ∀ exchange ∈ exchanges, ∀ program, exchange.request = .install program →
    program.source ≠ none → ∃ module : SupportModule, module.IsIn directory program.name ∧
      cache.find? (module.location directory) = some program

namespace SuppliedOnce

variable {directory : Path} {cache cache' : SupportCache} {support : List SupportModule}
  {exchanges : List (Exchange σ)} {exchange : Exchange σ} {module : SupportModule}
  {program : Program}

theorem start : SuppliedOnce directory cache [] ([] : List (Exchange σ)) where
  marked module := by simp
  once := .nil
  read := List.forall_mem_nil _

theorem with_cache (h : SuppliedOnce directory cache support exchanges)
    (hgrows : cache.Grows cache') : SuppliedOnce directory cache' support exchanges where
  marked := h.marked
  once := h.once
  read exchange hexchange program hrequest hsource :=
    (h.read exchange hexchange program hrequest hsource).imp fun _ => .imp_right (hgrows _ _)

/-- One more exchange, which neither supplies a module nor withdraws a marked one. -/
theorem append (h : SuppliedOnce directory cache support exchanges)
    (hnone : ∀ module, ¬exchange.Supplies directory module)
    (hkept : ∀ module ∈ support, ¬exchange.Withdraws directory module)
    (hread : ∀ program, exchange.request = .install program → program.source ≠ none →
      ∃ module : SupportModule, module.IsIn directory program.name ∧
        cache.find? (module.location directory) = some program) :
    SuppliedOnce directory cache support (exchanges ++ [exchange]) where
  marked module := by
    simp only [h.marked, List.mem_append, List.mem_singleton, or_and_right, exists_or,
      exists_eq_left, hnone, or_false]
  once := by
    refine List.pairwise_append.2 ⟨h.once, List.pairwise_singleton _ _, ?_⟩
    intro earlier hearlier last hlast module hsupplies
    obtain rfl := List.mem_singleton.1 hlast
    exact ⟨hnone module, hkept module ((h.marked module).2 ⟨earlier, hearlier, hsupplies⟩)⟩
  read := List.forall_mem_append.2 ⟨h.read, List.forall_mem_singleton.2 hread⟩

/-- A module that is not marked is supplied, and marked. -/
theorem supply (h : SuppliedOnce directory cache support exchanges) (hnew : module ∉ support)
    (hfound : cache.find? (module.location directory) = some program)
    (hinstalled : exchange.installed? = some program) (hsource : program.source ≠ none)
    (hin : module.IsIn directory program.name) {support' : List SupportModule}
    (hsupport : ∀ other, other ∈ support' ↔ other ∈ support ∨ other = module) :
    SuppliedOnce directory cache support' (exchanges ++ [exchange]) := by
  have hrequest := Engine.Exchange.installed_eq hinstalled
  have hsupplies (other : SupportModule) : exchange.Supplies directory other ↔ other = module := by
    constructor
    · rintro ⟨_, hsome, -, hother⟩
      obtain rfl := Option.some.inj (hinstalled.symm.trans hsome)
      exact hother.unique hin
    · rintro rfl
      exact ⟨program, hinstalled, hsource, hin⟩
  refine ⟨fun other => ?_, ?_, ?_⟩
  · simp only [hsupport, h.marked, List.mem_append, List.mem_singleton, or_and_right, exists_or,
      exists_eq_left, hsupplies]
  · refine List.pairwise_append.2 ⟨h.once, List.pairwise_singleton _ _, ?_⟩
    intro earlier hearlier last hlast other hother
    obtain rfl := List.mem_singleton.1 hlast
    constructor
    · intro hagain
      obtain rfl := (hsupplies other).1 hagain
      exact hnew ((h.marked other).2 ⟨earlier, hearlier, hother⟩)
    · rintro ⟨names, hnames, -⟩
      rw [hrequest] at hnames
      contradiction
  · refine List.forall_mem_append.2 ⟨h.read, List.forall_mem_singleton.2 ?_⟩
    intro other hother _
    obtain rfl := Request.install.inj (hrequest.symm.trans hother)
    exact ⟨module, hin, hfound⟩

end SuppliedOnce

/-! ## What a compile supplies -/

/-- What holds of the support modules throughout a compile, with some of them marked: since there
were the cache `first` and the exchanges `start`, more was read and more was asked of the engine. -/
structure Compile.Provides (directory : Path) (first : SupportCache) (start : List (Exchange σ))
    (support : List SupportModule) (compile : Compile (σ × List (Exchange σ)) π) : Prop where
  faithful : compile.cache.Faithful
  sourced : compile.cache.Sourced
  grows : first.Grows compile.cache
  later : start <+: compile.world.engine.2
  supplied : SuppliedOnce directory compile.cache support compile.world.engine.2

open Compile (Provides)

variable {setup : Setup (σ × List (Exchange σ)) π} {first : SupportCache}
  {start : List (Exchange σ)} {support : List SupportModule} {engine : ModelEngine σ}
  {ledger : Ledger σ} {directory : Path} {compile : Compile (σ × List (Exchange σ)) π}

namespace Compile.Provides

/-- What is found for a support module has the name of the module. -/
theorem is_in (h : compile.Provides directory first start support) {module : SupportModule}
    {program : Program} (hfound : compile.cache.find? (module.location directory) = some program) :
    module.IsIn directory program.name :=
  ⟨program.name, (h.faithful.find hfound).1, BEq.rfl⟩

/-- One more exchange, with what it says about the support modules. -/
theorem asked (h : compile.Provides directory first start support) {request : Request}
    {answer : Answer} (next : σ) {support' : List SupportModule}
    (hsupplied : SuppliedOnce directory compile.cache support'
      (compile.world.engine.2 ++ [⟨compile.world.engine.1, request, answer⟩])) :
    (compile.exchanged request answer next).Provides directory first start support' where
  faithful := h.faithful
  sourced := h.sourced
  grows := h.grows
  later := h.later.trans (List.prefix_append _ _)
  supplied := hsupplied

/-- A request that installs no source text and removes no marked module. -/
theorem exchanged (h : compile.Provides directory first start support) {request : Request}
    {answer : Answer} (next : σ)
    (hblank : ∀ program, request = .install program → program.source = none)
    (hfree : ∀ names, request = .uninstall names → ∀ name ∈ names,
      ¬Marks support directory name) :
    (compile.exchanged request answer next).Provides directory first start support := by
  refine h.asked next (h.supplied.append (fun module => ?_) (fun module hmodule => ?_) ?_)
  · exact Engine.Exchange.Blank.not_supplies hblank
  · rintro ⟨names, hrequest, name, hname, hin⟩
    exact hfree names hrequest name hname ⟨module, hmodule, hin⟩
  · exact fun program hrequest hsource => absurd (hblank program hrequest) hsource

/-- A support program could not be installed. -/
theorem refused (h : compile.Provides directory first start support) {module : SupportModule}
    {program : Program} {answer : Answer} (next : σ)
    (hfound : compile.cache.find? (module.location directory) = some program)
    (hnone : ∀ state : σ, (Exchange.mk state (.install program) answer).installed? = none) :
    (compile.exchanged (.install program) answer next).Provides directory first start support := by
  refine h.asked next (h.supplied.append (fun other => ?_) (fun other _ => ?_) ?_)
  · rintro ⟨_, hinstalled, -⟩
    rw [hnone] at hinstalled
    contradiction
  · rintro ⟨names, hrequest, -⟩
    contradiction
  · intro other hother _
    obtain rfl := Request.install.inj hother
    exact ⟨module, h.is_in hfound, hfound⟩

/-- A support program was installed, and its module is marked. -/
theorem marked (h : compile.Provides directory first start support) {module : SupportModule}
    {program : Program} (outcome : Engine.InstallOutcome) (next : σ) (hnew : module ∉ support)
    (hfound : compile.cache.find? (module.location directory) = some program)
    (hsucceeded : outcome.succeeded = true) {support' : List SupportModule}
    (hsupport : ∀ other, other ∈ support' ↔ other ∈ support ∨ other = module) :
    (compile.exchanged (.install program) (.installed outcome) next).Provides directory first start
      support' :=
  h.asked next (h.supplied.supply hnew hfound (by simp [Exchange.installed?, hsucceeded])
    (h.sourced.find hfound) (h.is_in hfound) hsupport)

theorem load (h : compile.Provides directory first start support) {module : SupportModule}
    {files : FileSystem} {place : Path} {program : Program} {cache : SupportCache}
    (hload : compile.cache.load files module place = .ok (program, cache)) :
    { compile with cache }.Provides directory first start support where
  faithful := (h.faithful.load hload).2.2
  sourced := h.sourced.load hload
  grows := h.grows.trans (SupportCache.grows_load hload)
  later := h.later
  supplied := h.supplied.with_cache (SupportCache.grows_load hload)

end Compile.Provides

namespace Action

/-- A request that installs no source text and removes no marked module. -/
theorem ask_provides {verb : Engine.Verb} {request : Request} {keep : α → Answer}
    {operation : σ → Except Engine.Error α × σ}
    (hblank : ∀ program, request = .install program → program.source = none)
    (hfree : ∀ names, request = .uninstall names → ∀ name ∈ names,
      ¬Marks support setup.toolchain.supportDirectory name) :
    Keeps setup (Provides setup.toolchain.supportDirectory first start support)
      (ask verb (log request keep operation)) :=
  (Triple.ask_log (fun _ _ next hcompile _ => hcompile.exchanged next hblank hfree)
    fun _ _ next hcompile _ => hcompile.exchanged next hblank hfree).keeps

theorem install_temporary_provides (hengine : setup.engine = logged engine) {program : Program}
    (hblank : program.source = none) :
    Keeps setup (Provides setup.toolchain.supportDirectory first start support)
      (installTemporary program) := by
  refine .bind (.read_bind ?_) fun _ => fun _ h => { h with }
  rw [hengine]
  refine .bind (ask_provides ?_ nofun) fun _ => .ite .fail .pure
  rintro _ ⟨⟩
  exact hblank

theorem uninstall_provides (hengine : setup.engine = logged engine) {names : List ProgramName}
    (hnames : ∀ name ∈ names, ¬Marks support setup.toolchain.supportDirectory name) :
    Keeps setup (Provides setup.toolchain.supportDirectory first start support)
      (uninstall names) := by
  cases names with
  | nil => exact .pure
  | cons first rest =>
    refine .read_bind ?_
    rw [hengine]
    refine .bind (ask_provides nofun ?_) fun _ => .ite (fun _ h => { h with }) .fail
    rintro _ ⟨⟩
    exact hnames

/-- A support module is supplied once, and marked then. -/
theorem ensure_support_provides (hengine : setup.engine = logged engine)
    (modules : List SupportModule) :
    Keeps setup
      (fun compile => compile.Provides setup.toolchain.supportDirectory first start
        compile.installed.support)
      (ensureSupport modules) := by
  refine .ensure_support (fun module compile program cache hcompile hnew hload => ?_) modules
  have hloaded := hcompile.load hload
  have hfound := SupportCache.find_of_load hload
  rcases hanswer : engine.install program compile.world.engine.1 with ⟨result, next⟩
  have hlog : (logged engine).install program compile.world.engine = _ := Engine.log_eq hanswer
  rw [run_install, hengine, hlog]
  rcases result with _ | ⟨_ | _, messages⟩
  · exact hloaded.refused next hfound fun _ => rfl
  · exact hloaded.refused next hfound fun _ => rfl
  · have hsupplied := hloaded.marked ⟨true, messages⟩ next hnew hfound rfl fun other =>
      Installed.mem_mark_support
    exact { hsupplied with }

/-- Exact records and what they say about support modules are kept by all other dealings with the
engine. -/
theorem upkeep_provides (hengine : setup.engine = logged engine) (h : engine.KeepsTo ledger) :
    Upkeep setup
      (fun support compile => ExactWith ledger.logged setup support compile ∧
        compile.Provides setup.toolchain.supportDirectory first start support)
      fun support name => ¬Marks support setup.toolchain.supportDirectory name := by
  have hexact : Upkeep setup (ExactWith ledger.logged setup) _ :=
    upkeep_exact (hengine ▸ Engine.logged_keeps_to h)
  refine ⟨fun hquiet support => ?_, fun name module goals support => ?_, fun step support => ?_,
    fun name module support => ?_, fun hblank support => ?_, fun hfree => ?_⟩
  · refine (hexact.quiet hquiet support).and (hquiet.keeps fun first second hsame hfirst => ?_)
    simp only [Compile.custody, Prod.mk.injEq] at hsame
    obtain ⟨hlog, hcache, -⟩ := hsame
    exact ⟨hcache ▸ hfirst.faithful, hcache ▸ hfirst.sourced, hcache ▸ hfirst.grows,
      hlog ▸ hfirst.later, hcache ▸ hlog ▸ hfirst.supplied⟩
  · refine (hexact.query name module goals support).and ?_
    rw [hengine]
    exact ask_provides (by simp) (by simp)
  · refine (hexact.apply step support).and ?_
    rw [hengine]
    exact ask_provides (by simp) (by simp)
  · refine (hexact.render name module support).and ?_
    rw [hengine]
    exact ask_provides (by simp) (by simp)
  · refine ((hexact.install hblank support).and_keeps
      (install_temporary_provides hengine hblank)).mono (fun _ => id) ?_ fun _ _ => id
    exact fun _ _ h => ⟨⟨h.1.1, h.2⟩, h.1.2⟩
  · exact (hexact.uninstall hfree).and
      (uninstall_provides hengine (List.forall_mem_singleton.2 hfree))

/-- Some modules are marked, and what holds of them does so of the marked ones. -/
theorem provides_iff {compile : Compile (σ × List (Exchange σ)) π} :
    (∃ support, ExactWith ledger.logged setup support compile ∧
        compile.Provides setup.toolchain.supportDirectory first start support) ↔
      compile.Exact ledger.logged setup ∧ compile.Provides setup.toolchain.supportDirectory
        first start compile.installed.support := by
  constructor
  · rintro ⟨_, ⟨hexact, rfl⟩, hprovides⟩
    exact ⟨hexact, hprovides⟩
  · exact fun ⟨hexact, hprovides⟩ => ⟨_, ⟨hexact, rfl⟩, hprovides⟩

end Action

namespace Compiler

/-- A compile supplies no module twice and withdraws none, whether it succeeds or not. -/
theorem run_phases_provides (hengine : setup.engine = logged engine) (h : engine.KeepsTo ledger)
    (hexact : compile.Exact ledger.logged setup)
    (hprovides : compile.Provides setup.toolchain.supportDirectory first start
      compile.installed.support) :
    (runPhases setup compile).Provides setup.toolchain.supportDirectory first start
      (runPhases setup compile).installed.support := by
  have hkeeps : setup.engine.KeepsTo ledger.logged := hengine ▸ Engine.logged_keeps_to h
  refine (provides_iff.1 (run_phases_keeps (upkeep_provides hengine h) ?_ (fun modules => ?_)
    (provides_iff.2 ⟨hexact, hprovides⟩))).2
  · rintro compile ⟨support, ⟨hexact, rfl⟩, hprovides⟩
    have hfree := tracked_not_marked hexact
    exact ⟨_, ((uninstall_tracks hkeeps _ hfree).and (uninstall_provides hengine hfree)) compile
      ⟨⟨hexact, rfl⟩, hprovides⟩⟩
  · simp only [provides_iff]
    exact (ensure_support_exact hkeeps modules).and (ensure_support_provides hengine modules)

end Compiler

end MachineCompiler
