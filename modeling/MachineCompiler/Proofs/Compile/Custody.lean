import MachineCompiler.Compile.Compiler
import MachineCompiler.Proofs.Engine.Ledger

/-!
# What is installed and what is known about it

A compiler keeps two records of what it has put into its engine, the tracked programs and the
marked support modules, and updates them apart from the engine. `Exact` says that the records and
the engine agree. Each change of the engine is proved here to keep it, together with the record that
goes with the change; the actions of a compile are put together from these changes.
-/

namespace MachineCompiler

open Engine (Program Ledger holds without)

/-! ## Records -/

namespace Installed

variable {installed : Installed} {program name : ProgramName}

theorem contains_iff :
    installed.contains name = true ↔ ∃ tracked ∈ installed.programs, (tracked == name) = true :=
  List.any_eq_true

theorem contains_congr (h : installed.contains name = true) (heq : (name == program) = true) :
    installed.contains program = true := by
  obtain ⟨tracked, hmem, hname⟩ := contains_iff.1 h
  exact contains_iff.2 ⟨tracked, hmem, BEq.trans hname heq⟩

/-- Tracking adds the program under all its spellings and no other one. -/
theorem contains_track :
    (installed.track program).contains name = true ↔
      installed.contains name = true ∨ (program == name) = true := by
  unfold track
  split
  · rename_i h
    exact ⟨.inl, fun hor => hor.elim id (contains_congr h)⟩
  · simp [contains_iff, or_and_right, exists_or]

/-- Untracking removes the program under all its spellings and no other one. -/
theorem contains_untrack :
    (installed.untrack program).contains name = true ↔
      installed.contains name = true ∧ (program == name) = false := by
  simp only [contains_iff, untrack, List.mem_filter, Bool.not_eq_true']
  constructor
  · rintro ⟨tracked, ⟨hmem, hne⟩, heq⟩
    refine ⟨⟨tracked, hmem, heq⟩, ?_⟩
    exact Bool.eq_false_iff.2 fun h =>
      Bool.eq_false_iff.1 hne (BEq.trans heq (BEq.symm h))
  · rintro ⟨⟨tracked, hmem, heq⟩, hne⟩
    exact ⟨tracked, ⟨hmem, Bool.eq_false_iff.2 fun h =>
      Bool.eq_false_iff.1 hne (BEq.trans (BEq.symm h) heq)⟩, heq⟩

theorem contains_untrack_all {names : List ProgramName} :
    (installed.untrackAll names).contains name = true ↔
      installed.contains name = true ∧ names.any (name == ·) = false := by
  induction names generalizing installed with
  | nil => simp [untrackAll]
  | cons first rest ih =>
    rw [show installed.untrackAll (first :: rest) = (installed.untrack first).untrackAll rest from rfl,
      ih, contains_untrack, List.any_cons, Bool.or_eq_false_iff, BEq.comm (a := name), and_assoc]

@[simp] theorem support_track : (installed.track program).support = installed.support := by
  unfold track
  split <;> rfl

@[simp] theorem support_untrack_all {names : List ProgramName} :
    (installed.untrackAll names).support = installed.support := by
  induction names generalizing installed with
  | nil => rfl
  | cons first rest ih => exact ih

@[simp] theorem programs_mark_support {module : SupportModule} :
    (installed.markSupport module).programs = installed.programs := by
  unfold markSupport
  split <;> rfl

theorem mem_mark_support {module other : SupportModule} :
    other ∈ (installed.markSupport module).support ↔
      other ∈ installed.support ∨ other = module := by
  unfold markSupport
  split
  · rename_i h
    have hmem : module ∈ installed.support := List.contains_iff_mem.1 h
    exact ⟨.inl, fun hor => hor.elim id fun heq => heq ▸ hmem⟩
  · simp

end Installed

/-! ## Support programs -/

/-- The program of a name is the one that holds the support module. -/
def SupportModule.IsIn (module : SupportModule) (directory : Path) (name : ProgramName) : Prop :=
  ∃ place, ProgramName.ofPath (module.location directory) = .ok place ∧ (place == name) = true

/-- One of the marked support modules is in the program of the name. -/
def Marks (support : List SupportModule) (directory : Path) (name : ProgramName) : Prop :=
  ∃ module ∈ support, module.IsIn directory name

theorem Marks.congr {support : List SupportModule} {directory : Path} {name other : ProgramName}
    (h : Marks support directory name) (heq : (name == other) = true) :
    Marks support directory other := by
  obtain ⟨module, hmem, place, hplace, hname⟩ := h
  exact ⟨module, hmem, place, hplace, BEq.trans hname heq⟩

/-- What was read is a support program under the name of its place, without models. -/
def SupportCache.Faithful (cache : SupportCache) : Prop :=
  ∀ entry ∈ cache.programs,
    ProgramName.ofPath entry.1 = .ok entry.2.name ∧ entry.2.models = []

/-- Absolute paths of one spelling are paths of one program. -/
theorem ProgramName.of_path_spelling {path other : Path} {name : ProgramName}
    (hspelling : SupportCache.spelling path = SupportCache.spelling other)
    (h : ProgramName.ofPath path = .ok name) : ProgramName.ofPath other = .ok name := by
  obtain ⟨habsolute, hcomponents⟩ := Prod.mk.inj hspelling
  have hpath := is_absolute_of_path h
  rw [of_path_absolute hpath, ← walk_skips_here, hcomponents, walk_skips_here] at h
  rw [of_path_absolute (habsolute ▸ hpath)]
  exact h

/-- What is found was read from a place of the same spelling. -/
theorem SupportCache.Faithful.find {cache : SupportCache} {path : Path} {program : Program}
    (hcache : cache.Faithful) (h : cache.find? path = some program) :
    ProgramName.ofPath path = .ok program.name ∧ program.models = [] := by
  obtain ⟨entry, hentry, rfl⟩ := Option.map_eq_some_iff.1 h
  obtain ⟨hname, hmodels⟩ := hcache entry (List.mem_of_find?_eq_some hentry)
  have hspelling := List.find?_some hentry
  exact ⟨ProgramName.of_path_spelling (eq_of_beq hspelling) hname, hmodels⟩

/-- Loading a support module yields its program, whether it was read before or not. -/
theorem SupportCache.Faithful.load {cache cache' : SupportCache} {files : FileSystem}
    {module : SupportModule} {directory : Path} {program : Program} (hcache : cache.Faithful)
    (h : cache.load files module directory = .ok (program, cache')) :
    ProgramName.ofPath (module.location directory) = .ok program.name
      ∧ program.models = [] ∧ cache'.Faithful := by
  simp only [SupportCache.load] at h
  split at h
  · rename_i hfound
    cases h
    obtain ⟨hname, hmodels⟩ := hcache.find hfound
    exact ⟨hname, hmodels, hcache⟩
  · split at h
    · contradiction
    · split at h
      · contradiction
      · rename_i hname
        cases h
        refine ⟨hname, rfl, fun entry hentry => ?_⟩
        obtain hold | hnew := List.mem_append.1 hentry
        · exact hcache entry hold
        · obtain rfl := List.mem_singleton.1 hnew
          exact ⟨hname, rfl⟩

/-- A support module whose file can be read is loaded when its place names a program, whatever was
read before. -/
theorem SupportCache.Faithful.load_readable {cache : SupportCache} {files : FileSystem}
    {module : SupportModule} {directory : Path} {text : String} (hcache : cache.Faithful)
    (hread : files.readText (module.location directory) = .ok text) :
    match ProgramName.ofPath (module.location directory) with
    | .ok _ => ∃ program cache', cache.load files module directory = .ok (program, cache')
    | .error reason => cache.load files module directory = .error (.badLocation reason) := by
  cases hfound : cache.find? (module.location directory) with
  | some program =>
    rw [(hcache.find hfound).1]
    exact ⟨program, cache, by simp only [SupportCache.load, hfound]⟩
  | none =>
    cases hname : ProgramName.ofPath (module.location directory) with
    | ok name => exact ⟨_, _, by simp only [SupportCache.load, hfound, hread, hname]; rfl⟩
    | error reason => simp only [SupportCache.load, hfound, hread, hname]

/-! ## Agreement of the records with the engine -/

variable {σ : Type} {ledger : Ledger σ} {directory : Path} {engine engine' : σ}
  {cache cache' : SupportCache} {installed : Installed}

/-- The programs in the engine are the tracked ones and those of the marked support modules, which
are apart from each other, only tracked programs have models, and marked modules have a place. -/
structure Exact (ledger : Ledger σ) (directory : Path) (engine : σ) (cache : SupportCache)
    (installed : Installed) : Prop where
  sound : ledger.sound engine
  held_iff : ∀ name, holds (ledger.installed engine) name = true ↔
    installed.contains name = true ∨ Marks installed.support directory name
  apart : ∀ name, installed.contains name = true → ¬Marks installed.support directory name
  blank : ∀ program ∈ ledger.installed engine,
    installed.contains program.name = true ∨ program.models = []
  placed : ∀ module ∈ installed.support,
    ∃ place, ProgramName.ofPath (module.location directory) = .ok place
  faithful : cache.Faithful

namespace Exact

/-- The records of an empty engine are exact when they are empty. -/
theorem start (hsound : ledger.sound engine) (hempty : ledger.installed engine = []) :
    Exact ledger directory engine .empty .none where
  sound := hsound
  held_iff name := by simp [hempty, holds, Installed.contains, Installed.none, Marks]
  apart name := by simp [Installed.contains, Installed.none]
  blank := by simp [hempty]
  placed := by simp [Installed.none]
  faithful := by simp [SupportCache.Faithful, SupportCache.empty]

/-- Nothing needs to be recorded when nothing is installed or removed. -/
theorem same (h : Exact ledger directory engine cache installed)
    (hsame : ledger.Same engine engine') : Exact ledger directory engine' cache installed where
  sound := hsame.1
  held_iff name := by rw [hsame.2]; exact h.held_iff name
  apart := h.apart
  blank := by rw [hsame.2]; exact h.blank
  placed := h.placed
  faithful := h.faithful

theorem with_cache (h : Exact ledger directory engine cache installed)
    (hcache : cache'.Faithful) : Exact ledger directory engine cache' installed :=
  { h with faithful := hcache }

/-- A program is installed and then tracked. -/
theorem install_tracked {program : Program} (h : Exact ledger directory engine cache installed)
    (hsound : ledger.sound engine')
    (hnew : holds (ledger.installed engine) program.name = false)
    (hadded : ledger.installed engine' = ledger.installed engine ++ [program]) :
    Exact ledger directory engine' cache (installed.track program.name) where
  sound := hsound
  held_iff name := by
    rw [hadded, Engine.holds_append, h.held_iff, Installed.contains_track,
      Installed.support_track, or_right_comm]
  apart name hname := by
    rw [Installed.support_track]
    obtain hold | hprogram := Installed.contains_track.1 hname
    · exact h.apart name hold
    -- A marked name is held by the engine, which then refuses to install it.
    · intro hmarks
      have hheld := (h.held_iff program.name).2 (.inr (hmarks.congr (BEq.symm hprogram)))
      rw [hnew] at hheld
      contradiction
  blank other hother := by
    rw [hadded] at hother
    rw [Installed.contains_track]
    obtain hold | hprogram := List.mem_append.1 hother
    · exact (h.blank other hold).imp_left .inl
    · obtain rfl := List.mem_singleton.1 hprogram
      exact .inl (.inr BEq.rfl)
  placed := by rw [Installed.support_track]; exact h.placed
  faithful := h.faithful

/-- A support program is installed and then marked. -/
theorem install_marked {program : Program} {module : SupportModule}
    (h : Exact ledger directory engine cache installed)
    (hname : ProgramName.ofPath (module.location directory) = .ok program.name)
    (hmodels : program.models = []) (hsound : ledger.sound engine')
    (hnew : holds (ledger.installed engine) program.name = false)
    (hadded : ledger.installed engine' = ledger.installed engine ++ [program]) :
    Exact ledger directory engine' cache (installed.markSupport module) := by
  have hmarks (name : ProgramName) :
      Marks (installed.markSupport module).support directory name ↔
        Marks installed.support directory name ∨ (program.name == name) = true := by
    simp only [Marks, Installed.mem_mark_support, or_and_right, exists_or, exists_eq_left]
    simp [SupportModule.IsIn, hname]
  have hcontains (name : ProgramName) :
      (installed.markSupport module).contains name = installed.contains name := by
    simp only [Installed.contains, Installed.programs_mark_support]
  refine ⟨hsound, fun name => ?_, fun name htracked => ?_, fun other hother => ?_,
    fun other hother => ?_, h.faithful⟩
  · rw [hadded, Engine.holds_append, h.held_iff, hcontains, hmarks, or_assoc]
  · rw [hcontains] at htracked
    rw [hmarks]
    rintro (hold | hprogram)
    · exact h.apart name htracked hold
    -- The other way round: a tracked name is held, so the support program is not new.
    · have hheld := (h.held_iff program.name).2
        (.inl (Installed.contains_congr htracked (BEq.symm hprogram)))
      rw [hnew] at hheld
      contradiction
  · rw [hadded] at hother
    rw [hcontains]
    obtain hold | hprogram := List.mem_append.1 hother
    · exact h.blank other hold
    · obtain rfl := List.mem_singleton.1 hprogram
      exact .inr hmodels
  · obtain hold | rfl := Installed.mem_mark_support.1 hother
    · exact h.placed other hold
    · exact ⟨program.name, hname⟩

/-- Programs that hold no marked support module are removed and then tracked no longer. -/
theorem uninstall {names : List ProgramName} (h : Exact ledger directory engine cache installed)
    (hnames : ∀ name ∈ names, ¬Marks installed.support directory name)
    (hsound : ledger.sound engine')
    (hremoved : ledger.installed engine' = without (ledger.installed engine) names) :
    Exact ledger directory engine' cache (installed.untrackAll names) where
  sound := hsound
  held_iff name := by
    rw [hremoved, Engine.holds_without, h.held_iff, Installed.contains_untrack_all,
      Installed.support_untrack_all, or_and_right]
    refine or_congr_right (and_iff_left_of_imp fun hmarks => ?_)
    rw [List.any_eq_false]
    exact fun gone hgone heq => hnames gone hgone (hmarks.congr heq)
  apart name hname := by
    rw [Installed.support_untrack_all]
    exact h.apart name (Installed.contains_untrack_all.1 hname).1
  blank program hprogram := by
    rw [hremoved] at hprogram
    obtain ⟨hold, hkept⟩ := List.mem_filter.1 hprogram
    rw [Bool.not_eq_true'] at hkept
    exact (h.blank program hold).imp_left fun htracked =>
      Installed.contains_untrack_all.2 ⟨htracked, hkept⟩
  placed := by rw [Installed.support_untrack_all]; exact h.placed
  faithful := h.faithful

end Exact

end MachineCompiler
