import MachineCompiler.Proofs.ProgramName.Identity
import MachineCompiler.Proofs.ProgramName.Places
import MachineCompiler.Proofs.Source.Replay
import Mathlib.Logic.Relation

/-!
# The search for the files of a program

The search is described one file at a time: a turn reads and parses the first file of the queue and
meets the files that it includes, and a search stops when the queue is empty or a turn fails. No
place is looked up twice, so the search does without the places that `collect` remembers. The files
met are, each once, the root and what the parsed files include.
-/

namespace MachineCompiler.Source

open Relation

variable {π : Type}

/-- A file that was parsed, and what the parser reported for it. -/
structure Visit where
  file : ProgramName
  output : ParseOutput

namespace Visit

/-- What a path in the file refers to. -/
def target (visit : Visit) (path : String) : Except ProgramName.Error ProgramName :=
  ProgramName.resolve visit.file.directory (Path.ofString path)

/-- The files that the file includes, in the order they are named. -/
def targets (visit : Visit) : List ProgramName :=
  visit.output.includes.filterMap fun path => (visit.target path).toOption

/-- The file was parsed, and all its includes name files. -/
structure Successful (visit : Visit) : Prop where
  succeeded : visit.output.succeeded = true
  directed : ∀ path ∈ visit.output.includes, ∃ name, visit.target path = .ok name

/-- A file is included when a path in the file refers to it. -/
theorem mem_targets {visit : Visit} {name : ProgramName} :
    name ∈ visit.targets ↔ ∃ path ∈ visit.output.includes, visit.target path = .ok name := by
  have hsome (path : String) :
      (visit.target path).toOption = some name ↔ visit.target path = .ok name := by
    cases visit.target path <;> simp [Except.toOption]
  simp only [targets, List.mem_filterMap, hsome]

end Visit

/-- The files of some visits, in order. -/
def filesOf (visits : List Visit) : List ProgramName :=
  visits.map Visit.file

/-- The messages of some visits, in order. -/
def flagsOf (visits : List Visit) : List Flag :=
  visits.flatMap fun visit => visit.output.flags

theorem files_of_append (visits : List Visit) (visit : Visit) :
    filesOf (visits ++ [visit]) = filesOf visits ++ [visit.file] := by
  simp [filesOf]

theorem flags_of_append (visits : List Visit) (visit : Visit) :
    flagsOf (visits ++ [visit]) = flagsOf visits ++ visit.output.flags := by
  simp [flagsOf]

/-- The names that are new beside the names seen, each in the spelling that comes first. -/
def newTo (seen : List ProgramName) : List ProgramName → List ProgramName
  | [] => []
  | name :: rest =>
    if seen.any (name == ·) then newTo seen rest else name :: newTo (seen ++ [name]) rest

section New

variable {seen names : List ProgramName}

theorem new_to_append (seen names more : List ProgramName) :
    newTo seen (names ++ more) = newTo seen names ++ newTo (seen ++ newTo seen names) more := by
  induction names generalizing seen with
  | nil => simp [newTo]
  | cons name rest ih =>
    rw [List.cons_append, newTo, newTo]
    split
    · exact ih seen
    · rw [ih, List.cons_append, List.append_assoc, List.singleton_append]

/-- What is new is among the names. -/
theorem mem_of_new_to {name : ProgramName} (h : name ∈ newTo seen names) : name ∈ names := by
  induction names generalizing seen with
  | nil => exact h
  | cons next rest ih =>
    rw [newTo] at h
    split at h
    · exact .tail _ (ih h)
    · rcases List.mem_cons.1 h with rfl | h
      · exact .head _
      · exact .tail _ (ih h)

/-- Names that are all different stay so when what is new is added to them. -/
theorem apart_new_to (h : seen.Pairwise fun a b => (a == b) = false) :
    (seen ++ newTo seen names).Pairwise fun a b => (a == b) = false := by
  induction names generalizing seen with
  | nil => simpa [newTo] using h
  | cons name rest ih =>
    rw [newTo]
    split
    · exact ih h
    · rename_i hnew
      rw [← List.singleton_append, ← List.append_assoc]
      refine ih (List.pairwise_append.2 ⟨h, List.pairwise_singleton _ _, ?_⟩)
      intro old hold other hother
      obtain rfl := List.mem_singleton.1 hother
      rw [BEq.comm]
      simp only [List.any_eq_true, not_exists, not_and, Bool.not_eq_true] at hnew
      exact hnew old hold

/-- Every name is seen or new. -/
theorem covered_new_to {name : ProgramName} (h : name ∈ names) :
    ∃ found ∈ seen ++ newTo seen names, (name == found) = true := by
  induction names generalizing seen with
  | nil => contradiction
  | cons next rest ih =>
    rw [newTo]
    rcases List.mem_cons.1 h with rfl | h
    · split <;> rename_i hseen
      · obtain ⟨found, hfound, hsame⟩ := List.any_eq_true.1 hseen
        exact ⟨found, List.mem_append_left _ hfound, hsame⟩
      · exact ⟨name, by simp, BEq.rfl⟩
    · split
      · exact ih h
      · obtain ⟨found, hfound, hsame⟩ := @ih (seen ++ [next]) h
        exact ⟨found, by simpa using hfound, hsame⟩

/-- A new name is the first one that is neither seen nor among the new ones before it. -/
theorem find_of_new_to {before after : List ProgramName} (h : newTo seen names = before ++ after) :
    names.find? (fun name => !(seen ++ before).any (name == ·)) = after.head? := by
  -- A name that is skipped was seen or is the first of `before`, which then joins those seen.
  induction names generalizing seen before with
  | nil =>
    obtain ⟨-, rfl⟩ := List.append_eq_nil_iff.1 h.symm
    rfl
  | cons name rest ih =>
    rw [newTo] at h
    by_cases hseen : seen.any (name == ·) = true
    · rw [if_pos hseen] at h
      rw [List.find?_cons_of_neg (by simp [hseen])]
      exact ih h
    · rw [if_neg hseen] at h
      cases before with
      | nil =>
        rw [List.nil_append] at h
        rw [List.append_nil, List.find?_cons_of_pos (by simpa using hseen), ← h, List.head?_cons]
      | cons first before =>
        rw [List.cons_append] at h
        obtain ⟨rfl, hrest⟩ := List.cons.inj h
        rw [List.find?_cons_of_neg (by simp [BEq.rfl])]
        simpa using ih hrest

end New

namespace Frontier

variable {file : ProgramName} {paths : List String} {frontier last : Frontier} {flag : Flag}

/-- Meeting some files puts the new ones at the end of the queue. -/
theorem meet_names (names queue seen : List ProgramName) :
    names.foldl meet ⟨queue, seen⟩ = ⟨queue ++ newTo seen names, seen ++ newTo seen names⟩ := by
  induction names generalizing queue seen with
  | nil => simp [newTo]
  | cons name rest ih =>
    rw [List.foldl_cons, meet, newTo]
    split
    · exact ih queue seen
    · rw [ih]
      simp

/-- All includes were met: each of them names a file. -/
theorem meet_all_ok (visit : Visit)
    (h : meetAll visit.file visit.output.includes frontier = .ok last) :
    (∀ path ∈ visit.output.includes, ∃ name, visit.target path = .ok name) ∧
      last = visit.targets.foldl meet frontier := by
  unfold Visit.targets
  generalize visit.output.includes = paths at h
  induction paths generalizing frontier with
  | nil =>
    cases h
    exact ⟨by simp, rfl⟩
  | cons path rest ih =>
    rw [meetAll] at h
    cases hresolve : visit.target path with
    | error error =>
      rw [Visit.target] at hresolve
      rw [hresolve] at h
      contradiction
    | ok name =>
      rw [List.filterMap_cons, hresolve]
      rw [Visit.target] at hresolve
      rw [hresolve] at h
      obtain ⟨hrest, hlast⟩ := ih h
      exact ⟨List.forall_mem_cons.2 ⟨⟨name, hresolve⟩, hrest⟩, hlast⟩

/-- Some include names no file; the flag is for the first of them. -/
theorem meet_all_error (visit : Visit)
    (h : meetAll visit.file visit.output.includes frontier = .error flag) :
    ∃ before path after error, visit.output.includes = before ++ path :: after ∧
      (∀ path ∈ before, ∃ name, visit.target path = .ok name) ∧
      visit.target path = .error error ∧ flag = badFile path error.message := by
  generalize visit.output.includes = paths at h ⊢
  induction paths generalizing frontier with
  | nil => contradiction
  | cons path rest ih =>
    rw [meetAll] at h
    cases hresolve : visit.target path with
    | error error =>
      refine ⟨[], path, rest, error, rfl, by simp, hresolve, ?_⟩
      rw [Visit.target] at hresolve
      rw [hresolve] at h
      cases h
      rfl
    | ok name =>
      have htarget := hresolve
      rw [Visit.target] at hresolve
      rw [hresolve] at h
      obtain ⟨before, path', after, error, hrest, hbefore, herror, hflag⟩ := ih h
      exact ⟨path :: before, path', after, error, by rw [hrest]; rfl,
        List.forall_mem_cons.2 ⟨⟨name, htarget⟩, hbefore⟩, herror, hflag⟩

end Frontier

/-- A search between two files: the files still to parse and all files met, what was declared, the
state of the parser, and the files parsed so far. -/
structure Progress (π : Type) where
  frontier : Frontier
  declarations : Declarations
  state : π
  visits : List Visit

/-- A search before the root file is parsed. -/
def Progress.start (root : ProgramName) (state : π) : Progress π :=
  ⟨.start root, .empty, state, []⟩

variable {files : FileSystem} {parser : Parser π} {root : ProgramName}

/-- One turn of the search: the first file of the queue is read and parsed, and the files that it
includes are met. -/
inductive Turn (files : FileSystem) (parser : Parser π) : Progress π → Progress π → Prop where
  | visit {file : ProgramName} {queue seen : List ProgramName}
      {declarations declared : Declarations} {state state' : π} {visits : List Visit}
      {text : String} {output : ParseOutput} {frontier : Frontier}
      (hread : files.readText file.path = .ok text)
      (hparse : parser.parseFile file text declarations state = (output, declared, state'))
      (hsucceeded : output.succeeded = true)
      (hmeet : Frontier.meetAll file output.includes ⟨queue, seen⟩ = .ok frontier) :
      Turn files parser ⟨⟨file :: queue, seen⟩, declarations, state, visits⟩
        ⟨frontier, declared, state', visits ++ [⟨file, output⟩]⟩

/-- The search stops after some visits with a result and a state of the parser: the queue is empty,
or its first file cannot be read, or cannot be parsed, or includes a path that names no file. -/
inductive Stops (files : FileSystem) (parser : Parser π) :
    Progress π → List Visit → Except (List Flag) Resolution × π → Prop where
  | finished {seen : List ProgramName} {declarations : Declarations} {state : π}
      {visits : List Visit} :
      Stops files parser ⟨⟨[], seen⟩, declarations, state, visits⟩ visits
        (.ok ⟨declarations.program, filesOf visits, flagsOf visits⟩, state)
  | unreadable {file : ProgramName} {queue seen : List ProgramName} {declarations : Declarations}
      {state : π} {visits : List Visit} {error : FileError}
      (hread : files.readText file.path = .error error) :
      Stops files parser ⟨⟨file :: queue, seen⟩, declarations, state, visits⟩ visits
        (.error (flagsOf visits ++ [badFile file.shown error.message]), state)
  | unparsed {file : ProgramName} {queue seen : List ProgramName}
      {declarations declared : Declarations} {state state' : π} {visits : List Visit}
      {text : String} {output : ParseOutput}
      (hread : files.readText file.path = .ok text)
      (hparse : parser.parseFile file text declarations state = (output, declared, state'))
      (hfailed : output.succeeded = false) :
      Stops files parser ⟨⟨file :: queue, seen⟩, declarations, state, visits⟩
        (visits ++ [⟨file, output⟩]) (.error (flagsOf (visits ++ [⟨file, output⟩])), state')
  | misdirected {file : ProgramName} {queue seen : List ProgramName}
      {declarations declared : Declarations} {state state' : π} {visits : List Visit}
      {text : String} {output : ParseOutput} {flag : Flag}
      (hread : files.readText file.path = .ok text)
      (hparse : parser.parseFile file text declarations state = (output, declared, state'))
      (hsucceeded : output.succeeded = true)
      (hmeet : Frontier.meetAll file output.includes ⟨queue, seen⟩ = .error flag) :
      Stops files parser ⟨⟨file :: queue, seen⟩, declarations, state, visits⟩
        (visits ++ [⟨file, output⟩])
        (.error (flagsOf (visits ++ [⟨file, output⟩]) ++ [flag]), state')

/-- What holds between two files of a search from `root`. -/
structure Progress.Sound (files : FileSystem) (root : ProgramName) (progress : Progress π) :
    Prop where
  split : progress.frontier.seen = filesOf progress.visits ++ progress.frontier.queue
  listed : progress.frontier.seen = newTo [] (root :: progress.visits.flatMap Visit.targets)
  successful : ∀ visit ∈ progress.visits, visit.Successful
  readable : ∀ visit ∈ progress.visits, ∃ text, files.readText visit.file.path = .ok text

namespace Progress.Sound

variable {progress next : Progress π}

/-- A search begins soundly. -/
theorem start (state : π) : (Progress.start root state).Sound files root :=
  ⟨rfl, rfl, by simp [Progress.start], by simp [Progress.start]⟩

/-- No file is met twice. -/
theorem apart (h : progress.Sound files root) :
    progress.frontier.seen.Pairwise fun a b => (a == b) = false := by
  rw [h.listed, ← List.nil_append (newTo _ _)]
  exact apart_new_to .nil

/-- A file in the queue was not parsed. -/
theorem unvisited (h : progress.Sound files root) {file visited : ProgramName}
    (hfile : file ∈ progress.frontier.queue) (hvisited : visited ∈ filesOf progress.visits) :
    (visited == file) = false := by
  have hapart := h.apart
  rw [h.split, List.pairwise_append] at hapart
  exact hapart.2.2 visited hvisited file hfile

/-- A turn keeps the search sound. -/
theorem turn (h : progress.Sound files root) (hturn : Turn files parser progress next) :
    next.Sound files root := by
  obtain @⟨file, queue, seen, _, _, _, _, visits, text, output, frontier, hread, hparse,
    hsucceeded, hmeet⟩ := hturn
  obtain ⟨hsplit, hlisted, hsuccessful, hreadable⟩ := h
  obtain ⟨hdirected, rfl⟩ := Frontier.meet_all_ok ⟨file, output⟩ hmeet
  simp only at hsplit hlisted hsuccessful hreadable
  rw [Frontier.meet_names]
  constructor
  · simp only [hsplit, files_of_append, List.append_assoc, List.cons_append, List.nil_append]
  · have hnew := new_to_append [] (root :: visits.flatMap Visit.targets)
      (Visit.targets ⟨file, output⟩)
    rw [List.nil_append, ← hlisted] at hnew
    simp only [List.flatMap_append, List.flatMap_cons, List.flatMap_nil, List.append_nil, ← hnew,
      List.cons_append]
  · intro visit hvisit
    rcases List.mem_append.1 hvisit with hold | hnew
    · exact hsuccessful visit hold
    · rw [List.mem_singleton.1 hnew]
      exact ⟨hsucceeded, hdirected⟩
  · intro visit hvisit
    rcases List.mem_append.1 hvisit with hold | hnew
    · exact hreadable visit hold
    · rw [List.mem_singleton.1 hnew]
      exact ⟨text, hread⟩

/-- A search stays sound. -/
theorem turns (h : progress.Sound files root)
    (hturns : ReflTransGen (Turn files parser) progress next) : next.Sound files root := by
  induction hturns with
  | refl => exact h
  | tail _ hturn ih => exact ih.turn hturn

end Progress.Sound

/-- What is read from a file is what is found when it is opened. -/
theorem read_of_open {path : Path} {found : Except FileError (Location × String)}
    (h : files.openText path = found) : files.readText path = found.map Prod.snd :=
  congrArg (Except.map Prod.snd) h

/-- From a sound state, with the places of the parsed files remembered, the search makes its turns
and stops with what `collect` gives: every file of the queue is at a new place. -/
theorem collect_stops (visited : List Location) (frontier : Frontier) (collected : Collected)
    (state : π) {visits : List Visit}
    (hsound : (⟨frontier, collected.declarations, state, visits⟩ : Progress π).Sound files root)
    (hfiles : collected.files = filesOf visits) (hflags : collected.flags = flagsOf visits)
    (hvisited : ∀ location ∈ visited, ProgramName.mk location ∈ filesOf visits) :
    ∃ last final,
      ReflTransGen (Turn files parser) ⟨frontier, collected.declarations, state, visits⟩ last ∧
      Stops files parser last final (collect files parser visited frontier collected state) := by
  -- The guard against places visited before never holds, so the recursion follows the turns.
  fun_induction collect files parser visited frontier collected state generalizing visits with
  | case1 =>
    refine ⟨_, visits, .refl, ?_⟩
    rw [hfiles, hflags]
    exact .finished
  | case2 _ _ _ file queue seen error hopen =>
    refine ⟨_, visits, .refl, ?_⟩
    rw [hflags]
    exact .unreadable (read_of_open hopen)
  | case3 visited _ _ file queue seen location text hopen hold =>
    obtain rfl := FileSystem.open_program hopen
    have hmem := hvisited _ (List.contains_iff_mem.1 hold)
    have hnew := hsound.unvisited (List.mem_cons_self ..) hmem
    rw [show ProgramName.mk file.segments = file from rfl, BEq.rfl] at hnew
    contradiction
  | case4 _ _ _ file queue seen location text hopen _ output declared state' hparse flags
      hsucceeded flag =>
    rename_i hmeet
    have hall : flags = flagsOf (visits ++ [⟨file, output⟩]) := by rw [flags_of_append, ← hflags]
    refine ⟨_, visits ++ [⟨file, output⟩], .refl, ?_⟩
    rw [hall]
    exact .misdirected (read_of_open hopen) hparse hsucceeded hmeet
  | case5 _ _ _ file queue seen location text hopen _ output declared state' hparse flags
      hsucceeded frontier =>
    rename_i hmeet ih
    have hall : flags = flagsOf (visits ++ [⟨file, output⟩]) := by rw [flags_of_append, ← hflags]
    have hturn : Turn files parser ⟨⟨file :: queue, seen⟩, _, _, visits⟩ _ :=
      .visit (read_of_open hopen) hparse hsucceeded hmeet
    obtain rfl := FileSystem.open_program hopen
    obtain ⟨last, final, hturns, hstops⟩ := ih (hsound.turn hturn)
      (by rw [files_of_append, hfiles]) hall <| by
        rw [files_of_append]
        intro location hlocation
        rcases List.mem_cons.1 hlocation with rfl | hold
        · exact List.mem_append_right _ (List.mem_singleton_self _)
        · exact List.mem_append_left _ (hvisited _ hold)
    exact ⟨last, final, .head hturn hturns, hstops⟩
  | case6 _ _ _ file queue seen location text hopen _ output declared state' hparse flags =>
    rename_i hfailed
    have hall : flags = flagsOf (visits ++ [⟨file, output⟩]) := by rw [flags_of_append, ← hflags]
    refine ⟨_, visits ++ [⟨file, output⟩], .refl, ?_⟩
    rw [hall]
    exact .unparsed (read_of_open hopen) hparse (by simpa using hfailed)

/-- Every search makes finitely many turns and stops with the program of the root or the flags that
say why there is none. -/
theorem resolve_stops (files : FileSystem) (parser : Parser π) (root : ProgramName) (state : π) :
    ∃ last visits,
      ReflTransGen (Turn files parser) (.start root state) last ∧
      Stops files parser last visits (resolve files parser root state) :=
  collect_stops [] (.start root) .none state (.start state) rfl rfl (by simp)

/-- All files of a program that was found can be read. -/
theorem readable_of_resolve {state : π} {resolution : Resolution}
    (h : (resolve files parser root state).1 = .ok resolution) :
    ∀ file ∈ resolution.files, ∃ text, files.readText file.path = .ok text := by
  obtain ⟨last, visits, hturns, hstops⟩ := resolve_stops files parser root state
  have hreadable := ((Progress.Sound.start state).turns hturns).readable
  rcases hresolve : resolve files parser root state with ⟨found, state'⟩
  rw [hresolve] at h hstops
  obtain rfl : found = .ok resolution := h
  cases hstops
  intro file hfile
  obtain ⟨visit, hvisit, rfl⟩ := List.mem_map.1 hfile
  exact hreadable visit hvisit

end MachineCompiler.Source
