import MachineCompiler.Proofs.Source.Mirror
import MachineCompiler.Proofs.Source.Search

/-!
# The files of a program in the line notation

The files that a root file leads to, listed breadth first with the lines that they say: the next
file is always the first one that is named by the root or by an include of a listed file and is not
listed itself. The search for the files of a program succeeds exactly when such a listing comes to
an end with every machine declared before it is needed, and there is one such listing only.
-/

namespace MachineCompiler.Source

open Relation

/-- A file with the lines that it says. -/
structure SourceFile where
  file : ProgramName
  lines : List Line

namespace SourceFile

/-- What a path in the file refers to. -/
def target (source : SourceFile) (path : String) : Except ProgramName.Error ProgramName :=
  ProgramName.resolve source.file.directory (Path.ofString path)

/-- The files that the file includes, in the order they are named. -/
def targets (source : SourceFile) : List ProgramName :=
  (source.lines.filterMap Line.included?).filterMap fun path => (source.target path).toOption

/-- The file can be read, it says the lines, and its includes name files. -/
structure Found (files : FileSystem) (source : SourceFile) : Prop where
  readable : ∃ text, files.readText source.file.path = .ok text ∧ Reads text source.lines
  directed : ∀ path, .include path ∈ source.lines → ∃ name, source.target path = .ok name

end SourceFile

/-- The lines of some files, in order. -/
def linesOf (sources : List SourceFile) : List Line :=
  sources.flatMap SourceFile.lines

/-- The file to list next: the first one named by the root or an include that is not listed. -/
def nextFile? (root : ProgramName) (sources : List SourceFile) : Option ProgramName :=
  (root :: sources.flatMap SourceFile.targets).find? fun name =>
    !sources.any fun source => name == source.file

/-- The files that a root file leads to, breadth first and as far as listed. -/
inductive Listing (files : FileSystem) (root : ProgramName) : List SourceFile → Prop where
  | start : Listing files root []
  | next {sources : List SourceFile} {source : SourceFile} (hlisting : Listing files root sources)
      (hnext : nextFile? root sources = some source.file) (hfound : source.Found files) :
      Listing files root (sources ++ [source])

/-- The sources of a program: all files that the root leads to, breadth first, with every machine
declared before it is needed. -/
structure Sources (files : FileSystem) (root : ProgramName) (sources : List SourceFile) : Prop where
  listing : Listing files root sources
  complete : nextFile? root sources = none
  owners : OwnersFirst (linesOf sources)

section Listing

variable {files : FileSystem} {root : ProgramName} {sources others before after : List SourceFile}
  {source : SourceFile}

/-- Every listed file was the next one after those before it. -/
theorem Listing.next_of_append (h : Listing files root (before ++ source :: after)) :
    nextFile? root before = some source.file ∧ source.Found files := by
  generalize hall : before ++ source :: after = sources at h
  induction h generalizing after with
  | start => simp at hall
  | @next sources last hlisting hnext hfound ih =>
    rcases after.eq_nil_or_concat with rfl | ⟨rest, other, rfl⟩
    · obtain ⟨rfl, hlast⟩ := List.append_inj' hall rfl
      obtain rfl := List.singleton_inj.1 hlast
      exact ⟨hnext, hfound⟩
    · rw [List.concat_eq_append, ← List.cons_append, ← List.append_assoc] at hall
      obtain ⟨rfl, -⟩ := List.append_inj' hall rfl
      exact ih rfl

/-- A file says one list of lines only. -/
theorem SourceFile.Found.unique {other : SourceFile} (h : source.Found files)
    (hother : other.Found files) (hfile : source.file = other.file) : source = other := by
  obtain ⟨text, hread, hreads⟩ := h.readable
  obtain ⟨text', hread', hreads'⟩ := hother.readable
  rw [hfile] at hread
  cases hread.symm.trans hread'
  obtain ⟨file, lines⟩ := source
  obtain ⟨file', lines'⟩ := other
  cases hfile
  cases says_all_unique hreads hreads'
  rfl

/-- A listing is the beginning of every complete one. -/
theorem Listing.prefix_of_complete (h : Listing files root sources)
    (hothers : Listing files root others) (hcomplete : nextFile? root others = none) :
    sources <+: others := by
  induction h with
  | start => exact List.nil_prefix
  | @next sources source hlisting hnext hfound ih =>
    obtain ⟨rest, rfl⟩ := ih
    cases rest with
    | nil =>
      rw [List.append_nil, hnext] at hcomplete
      contradiction
    | cons other rest =>
      obtain ⟨hnext', hfound'⟩ := hothers.next_of_append
      obtain rfl := hfound.unique hfound' (Option.some.inj (hnext.symm.trans hnext'))
      exact ⟨rest, by simp⟩

/-- A program has its sources only. -/
theorem Sources.unique (h : Sources files root sources) (hothers : Sources files root others) :
    sources = others :=
  (h.listing.prefix_of_complete hothers.listing hothers.complete).eq_of_length_le
    (hothers.listing.prefix_of_complete h.listing h.complete).length_le

end Listing

/-! ## The search -/

/-- A visit of a file has found the lines that the file says. -/
structure Visit.Heard (visit : Visit) (source : SourceFile) : Prop where
  file : visit.file = source.file
  includes : visit.output.includes = source.lines.filterMap Line.included?

/-- A search between two files has parsed the files of a listing, and has mirrored their lines. -/
structure Progress.Heard (files : FileSystem) (root : ProgramName) (sources : List SourceFile)
    (progress : Progress (List ProgramName)) : Prop where
  sound : progress.Sound files root
  listing : Listing files root sources
  visited : List.Forall₂ Visit.Heard progress.visits sources
  mirrors : progress.declarations.Mirrors (linesOf sources) (flagsOf progress.visits)

section Search

variable {files : FileSystem} {root : ProgramName} {sources : List SourceFile}
  {progress next : Progress (List ProgramName)}

theorem files_of_heard {visits : List Visit} (h : List.Forall₂ Visit.Heard visits sources) :
    filesOf visits = sources.map SourceFile.file := by
  induction h with
  | nil => rfl
  | cons hfirst _ ih => exact congrArg₂ List.cons hfirst.file ih

theorem targets_of_heard {visits : List Visit} (h : List.Forall₂ Visit.Heard visits sources) :
    visits.flatMap Visit.targets = sources.flatMap SourceFile.targets := by
  induction h with
  | nil => rfl
  | @cons visit source _ _ hfirst _ ih =>
    have hsame : visit.targets = source.targets := by
      simp only [Visit.targets, SourceFile.targets, Visit.target, SourceFile.target, hfirst.file,
        hfirst.includes]
    rw [List.flatMap_cons, List.flatMap_cons, hsame, ih]

/-- A path is included by a line that says so. -/
theorem mem_included {lines : List Line} {path : String} :
    path ∈ lines.filterMap Line.included? ↔ .include path ∈ lines := by
  rw [List.mem_filterMap]
  constructor
  · rintro ⟨line, hline, hincluded⟩
    cases line <;> cases hincluded
    exact hline
  · exact fun hline => ⟨_, hline, rfl⟩

/-- The parser of the line notation parses the lines of a file. -/
theorem parse_lines_of_parse_file {file : ProgramName} {text : String}
    {declarations declared : Declarations} {state state' : List ProgramName} {output : ParseOutput}
    (h : lineParser.parseFile file text declarations state = (output, declared, state')) :
    parseLines declarations [] [] (numberedLines file text) = (output, declared) := by
  simp only [lineParser, Prod.mk.injEq] at h
  exact Prod.ext h.1 h.2.1

namespace Progress.Heard

theorem start (state : List ProgramName) : (Progress.start root state).Heard files root [] where
  sound := .start state
  listing := .start
  visited := .nil
  mirrors := {
    program := .empty
    names := fun _ => Iff.rfl
    spotless := iff_of_true rfl .nil
    errors := List.forall_mem_nil _
    owners := owners_first_nil }

/-- The file to list next is the first one of the queue. -/
theorem next_file (h : progress.Heard files root sources) :
    nextFile? root sources = progress.frontier.queue.head? := by
  have hfind := find_of_new_to (h.sound.listed.symm.trans h.sound.split)
  rw [← hfind, nextFile?, targets_of_heard h.visited, files_of_heard h.visited]
  simp [Function.comp_def]

/-- A turn lists one more file. -/
theorem turn (h : progress.Heard files root sources)
    (hturn : Turn files lineParser progress next) :
    ∃ source, next.Heard files root (sources ++ [source]) := by
  have hsound := h.sound.turn hturn
  obtain @⟨file, queue, seen, declarations, declared, _, _, visits, text, output, frontier, hread,
    hparse, hsucceeded, hmeet⟩ := hturn
  have hmirrors : declarations.Mirrors (linesOf sources) (flagsOf visits ++ []) := by
    rw [List.append_nil]
    exact h.mirrors
  obtain ⟨stated, hsaid, hlast, hincludes⟩ :=
    mirrors_of_parse_lines hmirrors (parse_lines_of_parse_file hparse) hsucceeded
  rw [sentences_numbered] at hsaid
  obtain ⟨hdirected, -⟩ := Frontier.meet_all_ok ⟨file, output⟩ hmeet
  rw [List.nil_append] at hincludes
  refine ⟨⟨file, stated⟩, hsound, .next h.listing h.next_file ⟨⟨text, hread, hsaid⟩, ?_⟩, ?_, ?_⟩
  · intro path hpath
    exact hdirected path (hincludes ▸ mem_included.2 hpath)
  · exact List.rel_append h.visited (.cons ⟨rfl, hincludes⟩ .nil)
  · rw [linesOf, List.flatMap_append, flags_of_append]
    simpa [linesOf] using hlast

/-- Turns list more files. -/
theorem turns (h : progress.Heard files root sources)
    (hturns : ReflTransGen (Turn files lineParser) progress next) :
    ∃ sources, next.Heard files root sources := by
  induction hturns with
  | refl => exact ⟨sources, h⟩
  | tail _ hturn ih =>
    obtain ⟨sources, hheard⟩ := ih
    obtain ⟨source, hnext⟩ := hheard.turn hturn
    exact ⟨_, hnext⟩

/-- When the program has sources, the first file of the queue is one of them: it can be read and
parsed, and its includes name files. -/
theorem queued (h : progress.Heard files root sources) {file : ProgramName}
    (hqueue : progress.frontier.queue.head? = some file) {others : List SourceFile}
    (hothers : Sources files root others) :
    ∃ text output declared state', files.readText file.path = .ok text ∧
      lineParser.parseFile file text progress.declarations progress.state =
        (output, declared, state') ∧ output.succeeded = true ∧
      ∀ path ∈ output.includes, ∃ name, (Visit.mk file output).target path = .ok name := by
  -- The listing so far is the beginning of the sources, and the queue goes on as they do.
  obtain ⟨rest, rfl⟩ := h.listing.prefix_of_complete hothers.listing hothers.complete
  cases rest with
  | nil =>
    have hcomplete := hothers.complete
    rw [List.append_nil, h.next_file, hqueue] at hcomplete
    contradiction
  | cons source rest =>
    obtain ⟨hnext, ⟨text, hread, hreads⟩, hdirected⟩ := hothers.listing.next_of_append
    obtain rfl : file = source.file :=
      Option.some.inj (hqueue.symm.trans (h.next_file.symm.trans hnext))
    have howners : OwnersFirst (linesOf sources ++ source.lines) := by
      have hall := hothers.owners
      rw [linesOf, List.flatMap_append, List.flatMap_cons, ← List.append_assoc] at hall
      exact hall.of_append
    have hsaid : List.Forall₂ Line.Says
        (sentences ((numberedLines source.file text).map NumberedLine.text)) source.lines := by
      rw [sentences_numbered]
      exact hreads
    have hsucceeded := @parse_lines_succeeds _ _ _ _ _ [] h.mirrors hsaid howners []
    refine ⟨text, _, _, _, hread, rfl, hsucceeded, fun path hpath => ?_⟩
    have hmirrors : progress.declarations.Mirrors (linesOf sources)
        (flagsOf progress.visits ++ []) := by
      rw [List.append_nil]
      exact h.mirrors
    obtain ⟨stated, hstated, -, hincludes⟩ := mirrors_of_parse_lines hmirrors rfl hsucceeded
    rw [hincludes, List.nil_append, ← says_all_unique hsaid hstated] at hpath
    exact hdirected path (mem_included.1 hpath)

end Progress.Heard

/-- A program is found exactly when it has sources, and then its declarations mirror their lines. -/
theorem resolve_sources (files : FileSystem) (root : ProgramName) (state : List ProgramName) :
    match (resolve files lineParser root state).1 with
    | .ok resolution => ∃ (sources : List SourceFile) (declarations : Declarations),
        Sources files root sources ∧
          declarations.Mirrors (linesOf sources) resolution.flags ∧
          resolution.program = declarations.program
    | .error _ => ¬∃ sources, Sources files root sources := by
  obtain ⟨last, final, hturns, hstops⟩ := resolve_stops files lineParser root state
  obtain ⟨sources, hheard⟩ := (Progress.Heard.start state).turns hturns
  generalize resolve files lineParser root state = outcome at hstops
  cases hstops with
  | finished => exact ⟨sources, _, ⟨hheard.listing, hheard.next_file, hheard.mirrors.owners⟩,
      hheard.mirrors, rfl⟩
  | unreadable hread =>
    rintro ⟨others, hothers⟩
    obtain ⟨text, _, _, _, hread', -⟩ := hheard.queued rfl hothers
    cases hread.symm.trans hread'
  | unparsed hread hparse hfailed =>
    rintro ⟨others, hothers⟩
    obtain ⟨text, _, _, _, hread', hparse', hsucceeded, -⟩ := hheard.queued rfl hothers
    cases hread.symm.trans hread'
    cases hparse.symm.trans hparse'
    rw [hsucceeded] at hfailed
    contradiction
  | @misdirected file _ _ _ _ _ _ _ _ output _ hread hparse hsucceeded hmeet =>
    rintro ⟨others, hothers⟩
    obtain ⟨text, _, _, _, hread', hparse', -, hdirected⟩ := hheard.queued rfl hothers
    cases hread.symm.trans hread'
    cases hparse.symm.trans hparse'
    obtain ⟨before, path, after, error, hincludes, -, herror, -⟩ :=
      Frontier.meet_all_error ⟨file, output⟩ hmeet
    obtain ⟨name, hname⟩ := hdirected path (by rw [hincludes]; simp)
    cases herror.symm.trans hname

end Search

end MachineCompiler.Source
