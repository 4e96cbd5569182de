import MachineCompiler.FileSystem.Layout
import MachineCompiler.Proofs.Source.Listing

/-!
# Names that are declared more than once

A name of a category may be declared once over all files of a program. The places where names are
declared are listed file by file in the order of the search, and line by line in a file. Every place
but the first of a name is reported, with its line and file, and nothing else is reported; the
declarations are all kept.
-/

namespace MachineCompiler.Source

open Relation

/-- A place where a top-level name is declared: its line, the name in its category, and the
declaration. -/
structure Site where
  line : NumberedLine
  category : Category
  name : String
  declaration : Declaration

namespace Site

/-- What may be declared once only. -/
def key (site : Site) : Category × String :=
  (site.category, site.name)

/-- The message that the name is declared already. -/
def flag (site : Site) : Flag where
  severity := .error
  span := site.line.spanOf site.name
  message := "'" ++ site.name ++ "' is declared more than once"
  code := .plain
  program := some site.line.file

end Site

namespace NumberedLine

/-- The place of the name that a line declares, if it says that it declares one. Machines of all
roles are in one category. -/
def siteOf (line : NumberedLine) : Line → Option Site
  | .typeDef name =>
    some ⟨line, .typeDef, name, .typeDef ⟨name, .symbol "ANY", line.spanOf name⟩⟩
  | .event name => some ⟨line, .event, name, .event ⟨name, none, none, line.spanOf name⟩⟩
  | .machine role name =>
    some ⟨line, .machine, name, .machine ⟨name, role, none, line.spanOf name⟩⟩
  | _ => none

/-- The place of the name that a line declares. -/
def site? (line : NumberedLine) : Option Site :=
  (Line.ofWords line.words).toOption.bind line.siteOf

end NumberedLine

/-- The places of the names that some files declare, in order. -/
def sitesIn (files : FileSystem) (parsed : List ProgramName) : List Site :=
  parsed.flatMap fun file =>
    match files.readText file.path with
    | .ok text => (numberedLines file text).filterMap NumberedLine.site?
    | .error _ => []

/-- The places of names that are among `earlier` or have an earlier place. -/
def repetitions (earlier : List (Category × String)) : List Site → List Site
  | [] => []
  | site :: rest =>
    if site.key ∈ earlier then site :: repetitions earlier rest
    else repetitions (site.key :: earlier) rest

section Repetitions

variable {earlier : List (Category × String)} {sites : List Site} {site : Site}

/-- A place that comes last is a repetition if its name has an earlier place. -/
theorem repetitions_append_singleton : repetitions earlier (sites ++ [site]) =
    repetitions earlier sites ++
      if site.key ∈ earlier ∨ site.key ∈ sites.map Site.key then [site] else [] := by
  induction sites generalizing earlier with
  | nil => by_cases hmem : site.key ∈ earlier <;> simp [repetitions, hmem]
  | cons first rest ih =>
    simp only [List.cons_append, repetitions, List.map_cons, List.mem_cons]
    split
    · rename_i hfirst
      rw [ih, List.cons_append]
      by_cases hsame : site.key = first.key
      · simp [hsame, hfirst]
      · simp [hsame]
    · rw [ih]
      simp only [List.mem_cons, or_assoc, or_left_comm]

/-- All places of a name but the first are repetitions, and all of them if the name is among
`earlier`. -/
theorem filter_repetitions (key : Category × String) :
    (repetitions earlier sites).filter (·.key = key) =
      if key ∈ earlier then sites.filter (·.key = key)
      else (sites.filter (·.key = key)).tail := by
  induction sites generalizing earlier with
  | nil => simp [repetitions]
  | cons first rest ih =>
    rw [repetitions]
    by_cases hkey : first.key = key
    · subst hkey
      by_cases hfirst : first.key ∈ earlier
      · simp [hfirst, ih]
      · simp [hfirst, ih]
    · by_cases hfirst : first.key ∈ earlier
      · simp [hfirst, hkey, ih]
      · simp [hfirst, hkey, ih, Ne.symm hkey]

/-- With nothing before them, all places of a name but the first are repetitions. -/
theorem filter_repetitions_nil (sites : List Site) (key : Category × String) :
    (repetitions [] sites).filter (·.key = key) = (sites.filter (·.key = key)).tail := by
  rw [filter_repetitions, if_neg List.not_mem_nil]

/-- A name has one repetition less than it has places. -/
theorem count_repetitions (sites : List Site) (key : Category × String) :
    (repetitions [] sites).countP (·.key = key) = sites.countP (·.key = key) - 1 := by
  rw [List.countP_eq_length_filter, List.countP_eq_length_filter, filter_repetitions_nil,
    List.length_tail]

end Repetitions

/-- The kinds of declarations whose names are in a category. -/
def topLevelKinds : List Kind :=
  [.typeDef, .event, .machine]

/-- What was parsed declares names at some places: these names are registered, the declarations are
in the program, and the repetitions are reported. -/
structure Tallies (sites : List Site) (declarations : Declarations) (flags : List Flag) :
    Prop where
  names : ∀ key, key ∈ declarations.names.entries ↔ key ∈ sites.map Site.key
  kept : ∀ kind ∈ topLevelKinds, (declarations.program.table kind).map Prod.snd =
    (sites.map Site.declaration).filter (·.kind = kind)
  reported : flags = (repetitions [] sites).map Site.flag

/-- Nothing is declared at first. -/
theorem Tallies.empty : Tallies [] .empty [] where
  names _ := Iff.rfl
  kept kind hkind := by
    cases kind <;> rfl
  reported := rfl

/-! ## One line -/

namespace NumberedLine

variable {line : NumberedLine} {declarations : Declarations} {addition : Addition} {stated : Line}
  {site : Site} {sites : List Site} {flags : List Flag}

/-- A line declares a name at a place exactly if it says so. -/
theorem site_eq_some : line.site? = some site ↔
    ∃ stated, Line.Says line.words stated ∧ line.siteOf stated = some site := by
  unfold site?
  cases hread : Line.ofWords line.words with
  | error error =>
    refine iff_of_false nofun ?_
    rintro ⟨stated, hsaid, -⟩
    rw [Line.of_words_of_said hsaid] at hread
    contradiction
  | ok stated =>
    have hsaid := Line.says_of_words hread
    constructor
    · exact fun hsite => ⟨stated, hsaid, hsite⟩
    · rintro ⟨other, hother, hsite⟩
      rw [hsaid.unique hother]
      exact hsite

theorem declared_of_site (h : line.siteOf stated = some site) :
    site.line = line ∧ stated.declared? = some site.key := by
  cases stated <;> cases h <;> exact ⟨rfl, rfl⟩

theorem declared_of_no_site (h : line.siteOf stated = none) : stated.declared? = none := by
  cases stated <;> first | rfl | cases h

/-- A name is registered, or reported when it is registered already. -/
theorem declare_eq (site : Site) (names : Registry) :
    site.line.declare site.category site.name names =
      if site.key ∈ names.entries then ([site.flag], names)
      else ([], ⟨names.entries ++ [site.key]⟩) := by
  have hcontains : names.contains site.category site.name = decide (site.key ∈ names.entries) := by
    rw [Registry.contains, List.contains_eq_mem]
    rfl
  rw [declare, Registry.insert, hcontains]
  by_cases hmem : site.key ∈ names.entries
  · simp only [hmem, decide_true, if_true]
    rfl
  · simp only [hmem, decide_false, if_false]
    rfl

/-- What a line declares at a place is added, and nothing else of its kind. -/
theorem table_of_add (hadd : line.add declarations stated = .ok addition) {kind : Kind}
    (hkind : kind ∈ topLevelKinds) :
    (addition.declarations.program.table kind).map Prod.snd =
      (declarations.program.table kind).map Prod.snd ++
        ((line.siteOf stated).toList.map Site.declaration).filter (·.kind = kind) := by
  have hadded (declaration : Declaration) :
      ((declarations.program.add declaration).table kind).map Prod.snd =
        (declarations.program.table kind).map Prod.snd ++
          [declaration].filter (·.kind = kind) := by
    rw [Program.table_add, List.map_append]
    split <;> simp [*]
  have hother (other : Kind) (declaration : Declaration) (hdeclared : declaration.kind = other)
      (h : other ∉ topLevelKinds) :
      ((declarations.program.add declaration).table kind).map Prod.snd =
        (declarations.program.table kind).map Prod.snd ++ [] := by
    have hne : other ≠ kind := fun heq => h (heq ▸ hkind)
    rw [hadded, List.filter_singleton, hdeclared, decide_eq_false hne]
    rfl
  cases stated with
  | «include» path =>
    cases hadd
    exact (List.append_nil _).symm
  | typeDef name =>
    cases hadd
    exact hadded (.typeDef _)
  | event name =>
    cases hadd
    exact hadded (.event _)
  | machine role name =>
    cases hadd
    exact hadded (.machine _)
  | state path owner groups =>
    obtain ⟨id, -, rfl⟩ := map_eq_ok.1 hadd
    exact hother .state (.state _) rfl (by decide)
  | «variable» path owner name =>
    obtain ⟨id, -, rfl⟩ := map_eq_ok.1 hadd
    exact hother .variable (.variable _) rfl (by decide)
  | function path owner name used =>
    obtain ⟨id, -, rfl⟩ := map_eq_ok.1 hadd
    exact hother .function (.function _) rfl (by decide)

/-- What is added for a line is tallied. -/
theorem tallies_add (h : Tallies sites declarations flags)
    (hadd : line.add declarations stated = .ok addition) :
    Tallies (sites ++ (line.siteOf stated).toList) addition.declarations
      (flags ++ addition.flags) := by
  have hnames := names_of_add hadd
  have hkept : ∀ kind ∈ topLevelKinds,
      (addition.declarations.program.table kind).map Prod.snd =
        ((sites ++ (line.siteOf stated).toList).map Site.declaration).filter (·.kind = kind) := by
    intro kind hkind
    rw [table_of_add hadd hkind, h.kept kind hkind, List.map_append, List.filter_append]
  cases hsite : line.siteOf stated with
  | none =>
    rw [hsite] at hkept
    rw [declared_of_no_site hsite] at hnames
    obtain ⟨hflags, hsame⟩ := Prod.mk.inj hnames
    rw [Option.toList_none, List.append_nil] at hkept ⊢
    rw [hflags, List.append_nil]
    exact ⟨hsame ▸ h.names, hkept, h.reported⟩
  | some site =>
    rw [hsite] at hkept
    obtain ⟨rfl, hdeclared⟩ := declared_of_site hsite
    rw [hdeclared] at hnames
    rw [Option.toList_some] at hkept ⊢
    have hdeclare := hnames.trans (declare_eq site declarations.names)
    have hrepeated := h.names site.key
    split at hdeclare <;> rename_i hmem
    · obtain ⟨hflags, hsame⟩ := Prod.mk.inj hdeclare
      rw [hrepeated] at hmem
      refine ⟨fun key => ?_, hkept, ?_⟩
      · rw [hsame, h.names, List.map_append, List.mem_append]
        exact ⟨.inl, fun hkey => hkey.elim id fun hnew => List.mem_singleton.1 hnew ▸ hmem⟩
      · rw [hflags, repetitions_append_singleton, if_pos (.inr hmem), List.map_append,
          ← h.reported]
        rfl
    · obtain ⟨hflags, hadded⟩ := Prod.mk.inj hdeclare
      rw [hrepeated] at hmem
      refine ⟨fun key => ?_, hkept, ?_⟩
      · rw [hadded, List.map_append, List.mem_append, List.mem_append, h.names]
        rfl
      · rw [hflags, repetitions_append_singleton, if_neg (by simpa using hmem), List.append_nil,
          List.append_nil]
        exact h.reported

/-- What is parsed of a line is tallied. -/
theorem tallies_parse (h : Tallies sites declarations flags)
    (hparse : line.parse declarations = .ok addition) :
    Tallies (sites ++ line.site?.toList) addition.declarations (flags ++ addition.flags) := by
  by_cases hwords : line.words = []
  · cases (line.parse_blank hwords).symm.trans hparse
    have hnone : line.site? = none := by
      rw [site?, hwords]
      rfl
    simpa [hnone] using h
  · obtain ⟨stated, hsaid, hadd⟩ := (parse_eq_ok hwords).1 hparse
    have hsite : line.site? = line.siteOf stated := by
      rw [site?, Line.of_words_of_said hsaid]
      rfl
    rw [hsite]
    exact tallies_add h hadd

end NumberedLine

/-! ## One file, and all files -/

section Files

variable {files : FileSystem} {root : ProgramName} {sites : List Site}
  {declarations declared : Declarations} {flags earlier : List Flag} {includes : List String}
  {output : ParseOutput} {progress next : Progress (List ProgramName)} {state : List ProgramName}

/-- The lines of a file that is parsed are tallied. -/
theorem tallies_of_parse_lines {numbered : List NumberedLine}
    (h : Tallies sites declarations (earlier ++ flags))
    (hparse : parseLines declarations flags includes numbered = (output, declared))
    (hsucceeded : output.succeeded = true) :
    Tallies (sites ++ numbered.filterMap NumberedLine.site?) declared
      (earlier ++ output.flags) := by
  induction numbered generalizing declarations sites flags includes with
  | nil =>
    cases hparse
    simpa using h
  | cons line rest ih =>
    rw [parseLines] at hparse
    cases hline : line.parse declarations with
    | error error =>
      rw [hline] at hparse
      cases hparse
      contradiction
    | ok addition =>
      rw [hline] at hparse
      have hnext := NumberedLine.tallies_parse h hline
      rw [List.append_assoc] at hnext
      have hlast := ih hnext hparse
      rw [List.filterMap_cons]
      cases hsite : line.site? <;> simpa [hsite] using hlast

/-- The places of the parsed files, and those of one more file. -/
theorem sites_in_append {parsed : List ProgramName} {file : ProgramName} {text : String}
    (hread : files.readText file.path = .ok text) :
    sitesIn files (parsed ++ [file]) =
      sitesIn files parsed ++ (numberedLines file text).filterMap NumberedLine.site? := by
  simp [sitesIn, hread]

/-- The places are those of the lines of the files that say that they declare a name. -/
theorem mem_sites_in {parsed : List ProgramName} {site : Site} :
    site ∈ sitesIn files parsed ↔ ∃ file ∈ parsed, ∃ text, files.readText file.path = .ok text ∧
      ∃ line ∈ numberedLines file text, ∃ stated, Line.Says line.words stated ∧
        line.siteOf stated = some site := by
  rw [sitesIn, List.mem_flatMap]
  refine exists_congr fun file => and_congr_right fun _ => ?_
  cases hread : files.readText file.path with
  | error error => exact iff_of_false List.not_mem_nil (fun ⟨_, h, _⟩ => nomatch h)
  | ok text =>
    simp only [List.mem_filterMap, NumberedLine.site_eq_some, Except.ok.injEq, exists_eq_left']

/-- A search between two files has tallied the files that were parsed, which are those that the
parser was given. -/
structure Progress.Tallied (files : FileSystem) (state : List ProgramName)
    (progress : Progress (List ProgramName)) : Prop where
  tallies : Tallies (sitesIn files (filesOf progress.visits)) progress.declarations
    (flagsOf progress.visits)
  given : progress.state = state ++ filesOf progress.visits

namespace Progress.Tallied

theorem start : (Progress.start root state).Tallied files state :=
  ⟨.empty, (List.append_nil _).symm⟩

/-- A turn tallies one more file. -/
theorem turn (h : progress.Tallied files state) (hturn : Turn files lineParser progress next) :
    next.Tallied files state := by
  obtain @⟨file, queue, seen, declarations, declared, before, after, visits, text, output, frontier,
    hread, hparse, hsucceeded, hmeet⟩ := hturn
  obtain ⟨htallies, hgiven⟩ := h
  rw [← List.append_nil (flagsOf _)] at htallies
  have hlines := tallies_of_parse_lines htallies (parse_lines_of_parse_file hparse) hsucceeded
  have hstate : after = before ++ [file] := (congrArg (·.2.2) hparse).symm
  constructor
  · rw [files_of_append, flags_of_append, sites_in_append hread]
    exact hlines
  · rw [files_of_append, ← List.append_assoc, ← hgiven]
    exact hstate

/-- Turns tally more files. -/
theorem turns (h : progress.Tallied files state)
    (hturns : ReflTransGen (Turn files lineParser) progress next) : next.Tallied files state := by
  induction hturns with
  | refl => exact h
  | tail _ hturn ih => exact ih.turn hturn

end Progress.Tallied

/-- When the program of a root file is found, its files were parsed once each, breadth first. The
messages are those for the repetitions: the places of each name but the first, each at its line of
its file. The declarations of the repetitions are in the program like all others, in order. -/
theorem repetitions_are_reported {resolution : Resolution} {after : List ProgramName}
    (h : resolve files lineParser root state = (.ok resolution, after)) :
    (∃ sources, Sources files root sources ∧
        resolution.files = sources.map SourceFile.file) ∧
      after = state ++ resolution.files ∧
      let sites := sitesIn files resolution.files
      (∀ site, site ∈ sites ↔ ∃ file ∈ resolution.files, ∃ text,
        files.readText file.path = .ok text ∧ ∃ line ∈ numberedLines file text, ∃ stated,
          Line.Says line.words stated ∧ line.siteOf stated = some site) ∧
      resolution.flags = (repetitions [] sites).map Site.flag ∧
      (∀ site ∈ sites, site.flag.span.startLine = site.line.number ∧
        site.flag.span.program = some site.line.file) ∧
      (∀ key, (repetitions [] sites).filter (·.key = key) =
        (sites.filter (·.key = key)).tail) ∧
      (∀ key, (repetitions [] sites).countP (·.key = key) = sites.countP (·.key = key) - 1) ∧
      ∀ kind ∈ topLevelKinds, (resolution.program.table kind).map Prod.snd =
        (sites.map Site.declaration).filter (·.kind = kind) := by
  obtain ⟨last, visits, hturns, hstops⟩ := resolve_stops files lineParser root state
  obtain ⟨sources, hheard⟩ := (Progress.Heard.start state).turns hturns
  have htallied : last.Tallied files state := Progress.Tallied.start.turns hturns
  rw [h] at hstops
  cases hstops with
  | finished =>
    exact ⟨⟨sources, ⟨hheard.listing, hheard.next_file, hheard.mirrors.owners⟩,
      files_of_heard hheard.visited⟩, htallied.given, fun site => mem_sites_in,
      htallied.tallies.reported, fun site _ => ⟨rfl, rfl⟩, filter_repetitions_nil _,
      count_repetitions _, htallied.tallies.kept⟩

end Files

/-! ## Files that declare names again -/

namespace RepeatedNames

/-- The root file. It declares a machine twice. -/
def mainText : String :=
  "include \"parts/more.p\"\nevent Go\nmachine Main\n\nspec machine Main // again\n"

/-- The other file. It includes the root file under another spelling of its name, and declares the
names of the root file again, one of them in another category as well. -/
def moreText : String :=
  "include \"../MAIN.p\"\ntype Go\nevent Go\nmodel machine Main\n"

/-- Both files. -/
def tree : FileSystem :=
  ((FileSystem.inDirectory (.ofString "/work")).lay
    (.ofString "/work/main.p") (.file (.text mainText) .plain)).lay
    (.ofString "/work/parts/more.p") (.file (.text moreText) .plain)

/-- The root file and its lines. -/
def main : SourceFile where
  file := ⟨(Path.ofString "/work/main.p").components.foldl ProgramName.walk []⟩
  lines := [.include (Line.unquoted "\"parts/more.p\""), .event "Go", .machine .real "Main",
    .machine .spec "Main"]

/-- The other file and its lines. -/
def more : SourceFile where
  file := ⟨(Path.ofString "/work/parts/more.p").components.foldl ProgramName.walk []⟩
  lines := [.include (Line.unquoted "\"../MAIN.p\""), .typeDef "Go", .event "Go",
    .machine .model "Main"]

theorem main_found : main.Found tree := by
  have hsentences : sentences (Text.lines mainText.toList) =
      [["include", "\"parts/more.p\""], ["event", "Go"], ["machine", "Main"],
        ["spec", "machine", "Main"]] := by decide +kernel
  refine ⟨⟨mainText, by decide +kernel, ?_⟩, fun path hpath => ?_⟩
  · rw [Reads, hsentences]
    exact .cons (.include _) (.cons (.event _) (.cons (.machine _) (.cons (.spec _) .nil)))
  · obtain rfl : path = Line.unquoted "\"parts/more.p\"" := by simpa [main] using hpath
    exact ⟨more.file, by decide +kernel⟩

theorem more_found : more.Found tree := by
  have hsentences : sentences (Text.lines moreText.toList) =
      [["include", "\"../MAIN.p\""], ["type", "Go"], ["event", "Go"],
        ["model", "machine", "Main"]] := by decide +kernel
  refine ⟨⟨moreText, by decide +kernel, ?_⟩, fun path hpath => ?_⟩
  · rw [Reads, hsentences]
    exact .cons (.include _) (.cons (.typeDef _) (.cons (.event _) (.cons (.model _) .nil)))
  · obtain rfl : path = Line.unquoted "\"../MAIN.p\"" := by simpa [more] using hpath
    exact ⟨⟨(Path.ofString "/work/MAIN.p").components.foldl ProgramName.walk []⟩, by decide +kernel⟩

theorem sources : Sources tree main.file [main, more] where
  listing := .next (.next .start (by decide +kernel) main_found) (by decide +kernel) more_found
  complete := by decide +kernel
  owners := by decide +kernel

/-- The second machine of the root file is reported, and so are the event and the machine of the
other file, but not the type that has the name of the event. -/
theorem repetitions_are_reported_across_files : ∃ resolution,
    resolve tree lineParser main.file [] = (.ok resolution, [main.file, more.file]) ∧
      resolution.flags.map (fun flag => (flag.message, flag.span.startLine, flag.span.program)) =
        [("'Main' is declared more than once", 5, some main.file),
          ("'Go' is declared more than once", 3, some more.file),
          ("'Main' is declared more than once", 4, some more.file)] ∧
      (resolution.program.table .machine).length = 3 := by
  have hsources := resolve_sources tree main.file []
  cases hresolve : resolve tree lineParser main.file [] with
  | mk result after =>
    rw [hresolve] at hsources
    cases result with
    | error flags => exact absurd ⟨_, sources⟩ hsources
    | ok resolution =>
      obtain ⟨⟨found, hfound, hfiles⟩, hafter, -, hflags, -, -, -, hkept⟩ :=
        repetitions_are_reported hresolve
      obtain rfl := hfound.unique sources
      rw [hfiles] at hflags hkept hafter
      refine ⟨resolution, by rw [hafter]; rfl, ?_, ?_⟩
      · rw [hflags]
        decide +kernel
      · have hmachines := congrArg List.length (hkept .machine (by decide))
        rw [List.length_map] at hmachines
        rw [hmachines]
        decide +kernel

end RepeatedNames

end MachineCompiler.Source
