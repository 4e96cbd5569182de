import MachineCompiler.Proofs.Source.Search
import Mathlib.Data.List.Forall2
import Mathlib.Data.List.Pairwise
import Mathlib.Tactic.ByContra

/-!
# Files in breadth-first order

The files of a program are what can be reached from the root by includes, the nearer ones first.
The search keeps a level for every file that it met: at most two levels, one after the other, are
waiting in the queue at any time, and the levels turn out to be the distances from the root. When
the search fails, the flags say which file or path it failed at, after the flags of all files that
were parsed.
-/

namespace MachineCompiler.Source

open Relation

variable {π : Type} {files : FileSystem} {parser : Parser π} {root : ProgramName}

/-- From the root, `name` is reached by following as many includes of the visited files. -/
inductive Walk (visits : List Visit) (root : ProgramName) : Nat → ProgramName → Prop where
  | root {name : ProgramName} (hsame : (root == name) = true) : Walk visits root 0 name
  | step {length : Nat} {visit : Visit} {target name : ProgramName}
      (hwalk : Walk visits root length visit.file) (hvisit : visit ∈ visits)
      (htarget : target ∈ visit.targets) (hsame : (target == name) = true) :
      Walk visits root (length + 1) name

/-- The least number of includes of the visited files by which `name` is reached. -/
def Distance (visits : List Visit) (root : ProgramName) (length : Nat) (name : ProgramName) :
    Prop :=
  Walk visits root length name ∧ ∀ other, Walk visits root other name → length ≤ other

/-- The files found from a root: the root first, no file twice, everything that one of them
includes, each at some distance and the nearer ones first, and all of their messages in that
order. -/
structure IsClosure (root : ProgramName) (visits : List Visit) (found : Resolution) : Prop where
  files : found.files = filesOf visits
  starts : found.files.head? = some root
  apart : found.files.Pairwise fun a b => (a == b) = false
  closed : ∀ visit ∈ visits, ∀ path ∈ visit.output.includes, ∃ name,
    ProgramName.resolve visit.file.directory (Path.ofString path) = .ok name ∧
    ∃ file ∈ found.files, (file == name) = true
  nearest : ∃ distances : List Nat,
    distances.Pairwise (· ≤ ·) ∧ List.Forall₂ (Distance visits root) distances found.files
  flags : found.flags = flagsOf visits

/-- Why no program was found after some visits, and what is said about it: the flags of all visits,
and one more when a file that is included cannot be read or a path of the last file names none. -/
inductive Breakdown (files : FileSystem) (root : ProgramName) (visits : List Visit) :
    List Flag → Prop where
  | unreadable {length : Nat} {name : ProgramName} {error : FileError}
      (hvisits : ∀ visit ∈ visits, visit.Successful)
      (hreached : Walk visits root length name)
      (hnew : ∀ file ∈ filesOf visits, (file == name) = false)
      (hread : files.readText name.path = .error error) :
      Breakdown files root visits (flagsOf visits ++ [badFile name.shown error.message])
  | unparsed {before : List Visit} {last : Visit}
      (hvisits : visits = before ++ [last])
      (hbefore : ∀ visit ∈ before, visit.Successful)
      (hfailed : last.output.succeeded = false) :
      Breakdown files root visits (flagsOf visits)
  | misdirected {before : List Visit} {last : Visit} {earlier later : List String} {path : String}
      {error : ProgramName.Error}
      (hvisits : visits = before ++ [last])
      (hbefore : ∀ visit ∈ before, visit.Successful)
      (hsucceeded : last.output.succeeded = true)
      (hincludes : last.output.includes = earlier ++ path :: later)
      (hearlier : ∀ path ∈ earlier, ∃ name, last.target path = .ok name)
      (hpath : ProgramName.resolve last.file.directory (Path.ofString path) = .error error) :
      Breakdown files root visits (flagsOf visits ++ [badFile path error.message])

namespace Walk

variable {visits more : List Visit} {length : Nat} {name other : ProgramName}

/-- More visits lose no walk. -/
theorem mono (h : Walk visits root length name) : Walk (visits ++ more) root length name := by
  induction h with
  | root hsame => exact .root hsame
  | step _ hvisit htarget hsame ih => exact .step ih (List.mem_append_left _ hvisit) htarget hsame

end Walk

/-- A file that was met, with its level. -/
abbrev Mark := ProgramName × Nat

/-- The levels of files that are done and of files that wait: each at least as high as the ones
before it, and those that wait at most one apart. -/
structure Levels (done waiting : List Mark) : Prop where
  ascending : (done ++ waiting).Pairwise fun a b => a.2 ≤ b.2
  near : ∀ a ∈ waiting, ∀ b ∈ waiting, b.2 ≤ a.2 + 1

namespace Levels

variable {done waiting fresh : List Mark} {mark : Mark}

/-- No level is more than one above the level of the first file that waits. -/
theorem le (h : Levels done (mark :: waiting)) {other : Mark}
    (hother : other ∈ done ++ mark :: waiting) : other.2 ≤ mark.2 + 1 := by
  rcases List.mem_append.1 hother with hdone | hwaiting
  · have := (List.pairwise_append.1 h.ascending).2.2 other hdone mark (.head _)
    omega
  · exact h.near mark (.head _) other hwaiting

/-- The first file that waits is done, and files one level above it wait from now on. -/
theorem advance (h : Levels done (mark :: waiting)) (hfresh : ∀ new ∈ fresh, new.2 = mark.2 + 1) :
    Levels (done ++ [mark]) (waiting ++ fresh) where
  ascending := by
    rw [← List.append_assoc, ← List.append_cons]
    refine List.pairwise_append.2 ⟨h.ascending, ?_, fun old hold new hnew => ?_⟩
    · refine List.Pairwise.imp_of_mem ?_ (List.pairwise_of_forall fun _ _ => trivial)
      intro a b ha hb _
      exact Nat.le_of_eq ((hfresh a ha).trans (hfresh b hb).symm)
    · rw [hfresh new hnew]
      exact h.le hold
  near := by
    have hfirst : ∀ other ∈ waiting, mark.2 ≤ other.2 := by
      have hpairs := (List.pairwise_append.1 h.ascending).2.1
      exact (List.pairwise_cons.1 hpairs).1
    -- Both wait already, or one of them, or none.
    intro a ha b hb
    rcases List.mem_append.1 ha with ha | ha <;> rcases List.mem_append.1 hb with hb | hb
    · exact h.near a (.tail _ ha) b (.tail _ hb)
    · rw [hfresh b hb]
      exact Nat.succ_le_succ (hfirst a ha)
    · rw [hfresh a ha]
      exact Nat.le_succ_of_le (h.le (List.mem_append_right _ (.tail _ hb)))
    · rw [hfresh a ha, hfresh b hb]
      exact Nat.le_succ _

end Levels

/-- The files met have levels. A parsed file and everything it includes are met, the latter at most
one level above it, and every level is the length of a walk. -/
structure Progress.Layered (root : ProgramName) (progress : Progress π) (done waiting : List Mark) :
    Prop where
  parsed : done.map Prod.fst = filesOf progress.visits
  queued : waiting.map Prod.fst = progress.frontier.queue
  levels : Levels done waiting
  rooted : (root, 0) ∈ done ++ waiting
  reached : ∀ mark ∈ done ++ waiting, Walk progress.visits root mark.2 mark.1
  closed : ∀ visit ∈ progress.visits, ∃ level, (visit.file, level) ∈ done ++ waiting ∧
    ∀ target ∈ visit.targets, ∃ mark ∈ done ++ waiting,
      (target == mark.1) = true ∧ mark.2 ≤ level + 1

namespace Progress.Layered

variable {progress next : Progress π} {done waiting : List Mark}

/-- At the start the root waits at level zero. -/
theorem start (state : π) : (Progress.start root state).Layered root [] [(root, 0)] where
  parsed := rfl
  queued := rfl
  levels := ⟨List.pairwise_singleton .., by simp⟩
  rooted := .head _
  reached := by simpa using .root BEq.rfl
  closed := by simp [Progress.start]

/-- The marks are those of the files met. -/
theorem names (hsound : progress.Sound files root) (h : progress.Layered root done waiting) :
    (done ++ waiting).map Prod.fst = progress.frontier.seen := by
  rw [List.map_append, h.parsed, h.queued, hsound.split]

/-- A file has one level. -/
theorem unique (hsound : progress.Sound files root) (h : progress.Layered root done waiting)
    {a b : Mark} (ha : a ∈ done ++ waiting) (hb : b ∈ done ++ waiting)
    (hsame : (a.1 == b.1) = true) : a = b := by
  have hapart : (done ++ waiting).Pairwise fun a b => (a.1 == b.1) = false := by
    have hseen := hsound.apart
    rwa [← h.names hsound, List.pairwise_map] at hseen
  have : Std.Symm fun a b : Mark => (a.1 == b.1) = false :=
    ⟨fun _ _ hab => by rw [BEq.comm, hab]⟩
  by_contra hne
  rw [hapart.forall ha hb hne] at hsame
  contradiction

/-- What a walk reaches was met, at a level no higher than the length of the walk. -/
theorem level_le (hsound : progress.Sound files root) (h : progress.Layered root done waiting)
    {length : Nat} {name : ProgramName} (hwalk : Walk progress.visits root length name) :
    ∃ mark ∈ done ++ waiting, (name == mark.1) = true ∧ mark.2 ≤ length := by
  induction hwalk with
  | root hsame => exact ⟨(root, 0), h.rooted, BEq.symm hsame, Nat.le_refl 0⟩
  | @step length visit target name _ hvisit htarget hsame ih =>
    obtain ⟨mark, hmark, hfile, hlevel⟩ := ih
    obtain ⟨level, hvisited, htargets⟩ := h.closed visit hvisit
    obtain rfl : (visit.file, level) = mark := h.unique hsound hvisited hmark hfile
    obtain ⟨found, hfound, hname, hnext⟩ := htargets target htarget
    exact ⟨found, hfound, BEq.trans (BEq.symm hsame) hname,
      Nat.le_trans hnext (Nat.succ_le_succ hlevel)⟩

/-- The level of a file is its distance from the root. -/
theorem distance (hsound : progress.Sound files root) (h : progress.Layered root done waiting)
    {mark : Mark} (hmark : mark ∈ done ++ waiting) :
    Distance progress.visits root mark.2 mark.1 := by
  refine ⟨h.reached mark hmark, fun other hother => ?_⟩
  obtain ⟨found, hfound, hsame, hle⟩ := h.level_le hsound hother
  rwa [h.unique hsound hmark hfound hsame]

/-- A turn parses the first file of the queue at its level and puts what is new one level above. -/
theorem turn (hsound : progress.Sound files root) (h : progress.Layered root done waiting)
    (hturn : Turn files parser progress next) :
    ∃ done waiting, next.Layered root done waiting := by
  obtain @⟨file, queue, seen, _, _, _, _, visits, text, output, frontier, hread, hparse,
    hsucceeded, hmeet⟩ := hturn
  obtain ⟨-, rfl⟩ := Frontier.meet_all_ok ⟨file, output⟩ hmeet
  obtain ⟨⟨_, level⟩, waiting, rfl, rfl, rfl⟩ := List.map_eq_cons_iff.1 h.queued
  rename_i file
  let fresh := (newTo seen (Visit.targets ⟨file, output⟩)).map (·, level + 1)
  have hmarks : (done ++ [(file, level)]) ++ (waiting ++ fresh) =
      (done ++ (file, level) :: waiting) ++ fresh := by simp
  have hold {mark : Mark} (hmark : mark ∈ done ++ (file, level) :: waiting) :
      mark ∈ (done ++ (file, level) :: waiting) ++ fresh := List.mem_append_left _ hmark
  have hnow : (file, level) ∈ done ++ (file, level) :: waiting := by simp
  have hseen : (done ++ (file, level) :: waiting).map Prod.fst = seen := h.names hsound
  rw [Frontier.meet_names]
  refine ⟨done ++ [(file, level)], waiting ++ fresh, ?_, ?_, h.levels.advance ?_, ?_, ?_, ?_⟩
  · rw [List.map_append, h.parsed, files_of_append]
    rfl
  · simp [fresh, Function.comp_def]
  · intro new hnew
    obtain ⟨name, -, rfl⟩ := List.mem_map.1 hnew
    rfl
  · rw [hmarks]
    exact hold h.rooted
  · rw [hmarks]
    intro mark hmark
    rcases List.mem_append.1 hmark with hmark | hmark
    · exact (h.reached mark hmark).mono
    · obtain ⟨name, hname, rfl⟩ := List.mem_map.1 hmark
      exact .step (h.reached _ hnow).mono (List.mem_append_right _ (.head _)) (mem_of_new_to hname)
        BEq.rfl
  · rw [hmarks]
    intro visit hvisit
    rcases List.mem_append.1 hvisit with hvisit | hvisit
    · obtain ⟨level, hlevel, htargets⟩ := h.closed visit hvisit
      refine ⟨level, hold hlevel, fun target htarget => ?_⟩
      obtain ⟨mark, hmark, hmet⟩ := htargets target htarget
      exact ⟨mark, hold hmark, hmet⟩
    · -- What the file includes is fresh, or was met at a level that is not too high.
      obtain rfl := List.mem_singleton.1 hvisit
      refine ⟨level, hold hnow, fun target htarget => ?_⟩
      obtain ⟨found, hfound, hsame⟩ := @covered_new_to seen _ _ htarget
      rcases List.mem_append.1 hfound with hfound | hfound
      · rw [← hseen] at hfound
        obtain ⟨mark, hmark, rfl⟩ := List.mem_map.1 hfound
        exact ⟨mark, hold hmark, hsame, h.levels.le hmark⟩
      · exact ⟨(found, level + 1), List.mem_append_right _ (List.mem_map_of_mem hfound), hsame,
          Nat.le_refl _⟩

/-- The files met keep having levels. -/
theorem turns (hsound : progress.Sound files root) (h : progress.Layered root done waiting)
    (hturns : ReflTransGen (Turn files parser) progress next) :
    ∃ done waiting, next.Layered root done waiting := by
  induction hturns with
  | refl => exact ⟨done, waiting, h⟩
  | tail hturns hturn ih =>
    obtain ⟨_, _, hlayered⟩ := ih
    exact hlayered.turn (hsound.turns hturns) hturn

end Progress.Layered

/-- A search that ends with an empty queue found the closure of the root. -/
theorem closure_of_finished {progress : Progress π} {done waiting : List Mark}
    {found : Resolution} {final : π} {visits : List Visit}
    (hsound : progress.Sound files root) (hlayered : progress.Layered root done waiting)
    (hstops : Stops files parser progress visits (.ok found, final)) :
    IsClosure root visits found := by
  obtain @⟨seen, declarations, _, _⟩ := hstops
  obtain rfl : waiting = [] := List.map_eq_nil_iff.1 hlayered.queued
  have hfiles : done.map Prod.fst = filesOf visits := hlayered.parsed
  have hlisted : seen = newTo [] (root :: visits.flatMap Visit.targets) := hsound.listed
  obtain rfl : seen = filesOf visits := hsound.split.trans (List.append_nil _)
  constructor
  · rfl
  · rw [hlisted]
    simp [newTo]
  · exact hsound.apart
  · intro visit hvisit path hpath
    obtain ⟨name, hname⟩ := (hsound.successful visit hvisit).directed path hpath
    obtain ⟨level, -, htargets⟩ := hlayered.closed visit hvisit
    obtain ⟨mark, hmark, hsame, -⟩ := htargets name (Visit.mem_targets.2 ⟨path, hpath, hname⟩)
    rw [List.append_nil] at hmark
    refine ⟨name, hname, mark.1, ?_, BEq.symm hsame⟩
    rw [← hfiles]
    exact List.mem_map_of_mem hmark
  · refine ⟨done.map Prod.snd, ?_, ?_⟩
    · have hascending := hlayered.levels.ascending
      rw [List.append_nil] at hascending
      exact List.pairwise_map.2 hascending
    · rw [← hfiles, List.forall₂_map_left_iff, List.forall₂_map_right_iff, List.forall₂_same]
      exact fun mark hmark => hlayered.distance hsound (List.mem_append_left _ hmark)
  · rfl

/-- A search that ends at a file or a path broke down there. -/
theorem breakdown_of_stopped {progress : Progress π} {done waiting : List Mark}
    {flags : List Flag} {final : π} {visits : List Visit}
    (hsound : progress.Sound files root) (hlayered : progress.Layered root done waiting)
    (hstops : Stops files parser progress visits (.error flags, final)) :
    Breakdown files root visits flags := by
  have hsuccessful := hsound.successful
  cases hstops with
  | @unreadable file queue _ _ _ _ _ hread =>
    obtain ⟨mark, rest, rfl, rfl, -⟩ := List.map_eq_cons_iff.1 hlayered.queued
    refine .unreadable hsuccessful (hlayered.reached mark (by simp)) (fun visited hvisited => ?_)
      hread
    exact hsound.unvisited (List.mem_cons_self ..) hvisited
  | unparsed _ _ hfailed => exact .unparsed rfl hsuccessful hfailed
  | @misdirected file _ _ _ _ _ _ _ _ output _ _ _ hsucceeded hmeet =>
    obtain ⟨earlier, path, later, error, hincludes, hearlier, hpath, rfl⟩ :=
      Frontier.meet_all_error ⟨file, output⟩ hmeet
    exact .misdirected rfl hsuccessful hsucceeded hincludes hearlier hpath

/-- A search visits no file twice, also when it stops at the file that it visits last. -/
theorem apart_of_stopped {progress : Progress π} {visits : List Visit}
    {outcome : Except (List Flag) Resolution × π} (hsound : progress.Sound files root)
    (hstops : Stops files parser progress visits outcome) :
    (filesOf visits).Pairwise fun a b => (a == b) = false := by
  have hapart := hsound.apart
  rw [hsound.split] at hapart
  cases hstops with
  | finished | unreadable => exact (List.pairwise_append.1 hapart).1
  | unparsed | misdirected =>
    rw [files_of_append]
    rw [List.append_cons] at hapart
    exact (List.pairwise_append.1 hapart).1

/-- Every search for the files of a program comes to an end: after finitely many turns, each of
which parses the next file of the queue, it stops with what `resolve` gives. It visits no file
twice. If it finds a program, the files of the program are the closure of the root under includes
in breadth-first order; otherwise the flags say where it broke down. -/
theorem search_is_breadth_first (files : FileSystem) (parser : Parser π) (root : ProgramName)
    (state : π) :
    ∃ last visits,
      ReflTransGen (Turn files parser) (.start root state) last ∧
      Stops files parser last visits (resolve files parser root state) ∧
      ((filesOf visits).Pairwise fun a b => (a == b) = false) ∧
      match (resolve files parser root state).1 with
      | .ok found => IsClosure root visits found
      | .error flags => Breakdown files root visits flags := by
  obtain ⟨last, visits, hturns, hstops⟩ := resolve_stops files parser root state
  have hsound := (Progress.Sound.start state).turns hturns
  obtain ⟨done, waiting, hlayered⟩ :=
    (Progress.Layered.start state).turns (Progress.Sound.start state) hturns
  refine ⟨last, visits, hturns, hstops, apart_of_stopped hsound hstops, ?_⟩
  generalize resolve files parser root state = outcome at hstops
  obtain ⟨flags | found, final⟩ := outcome
  · exact breakdown_of_stopped hsound hlayered hstops
  · exact closure_of_finished hsound hlayered hstops

end MachineCompiler.Source
