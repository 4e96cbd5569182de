import MachineCompiler.FileSystem.Basic
import MachineCompiler.Source.Parser

/-!
# The files of a program

A program is made of a root file and every file that is reached from it by includes. An include is
looked up in the directory of the file that names it. Files are parsed breadth first and at most
once each, however often and in whatever letter case they are included, so cycles come to an end.
-/

namespace MachineCompiler.Source

/-- A program with the files that it is made of, in the order they were parsed, and the messages
about them. -/
structure Resolution where
  program : Program
  files : List ProgramName
  flags : List Flag

/-- A flag for a path that cannot be used. -/
def badFile (path reason : String) : Flag :=
  .error (path ++ " : " ++ reason) .badFile

/-- The files still to parse, and all files met so far. -/
structure Frontier where
  queue : List ProgramName
  seen : List ProgramName

namespace Frontier

/-- The frontier before the root file is parsed. -/
def start (root : ProgramName) : Frontier := ⟨[root], [root]⟩

/-- Put a file in the queue, unless it was met before. -/
def meet (frontier : Frontier) (file : ProgramName) : Frontier :=
  if frontier.seen.any (file == ·) then frontier
  else ⟨frontier.queue ++ [file], frontier.seen ++ [file]⟩

/-- Put the files in the queue that `file` includes, up to the first path that names none. -/
def meetAll (file : ProgramName) : List String → Frontier → Except Flag Frontier
  | [], frontier => .ok frontier
  | path :: rest, frontier =>
    match ProgramName.resolve file.directory (Path.ofString path) with
    | .error error => .error (badFile path error.message)
    | .ok name => meetAll file rest (frontier.meet name)

end Frontier

/-- What was collected from the files parsed so far: their declarations, their names in the order
they were parsed, and the messages about them. -/
structure Collected where
  declarations : Declarations
  files : List ProgramName
  flags : List Flag

/-- Nothing collected. -/
def Collected.none : Collected := ⟨.empty, [], []⟩

/-- The number of files at places not visited. -/
def unvisited (files : FileSystem) (visited : List Location) : Nat :=
  files.snapshot.countP fun entry => !visited.contains entry.1

/-- Visiting a place for the first time leaves fewer places to visit. -/
theorem unvisited_lt {files : FileSystem} {visited : List Location} {location : Location}
    {contents : Contents} (held : (location, contents) ∈ files.snapshot)
    (new : ¬ visited.contains location = true) :
    unvisited files (location :: visited) < unvisited files visited := by
  unfold unvisited
  generalize files.snapshot = entries at held
  induction entries with
  | nil => simp at held
  | cons entry rest ih =>
    have mono : rest.countP (fun entry => !(location :: visited).contains entry.1)
        ≤ rest.countP fun entry => !visited.contains entry.1 := by
      apply List.countP_mono_left
      intro entry _ h
      simp only [List.contains_cons, Bool.not_eq_true', Bool.or_eq_false_iff] at h ⊢
      exact h.2
    rcases List.mem_cons.1 held with rfl | later
    · rw [List.countP_cons, List.countP_cons]
      simp only [Bool.not_eq_true] at new
      have now : (location :: visited).contains location = true := by
        rw [List.contains_cons, beq_self_eq_true, Bool.true_or]
      simp only [now, new, Bool.not_true, Bool.not_false, Bool.false_eq_true, if_false, if_true]
      omega
    · have step := ih later
      rw [List.countP_cons, List.countP_cons]
      by_cases old : visited.contains entry.1 = true
      · have : (location :: visited).contains entry.1 = true := by
          rw [List.contains_cons, old, Bool.or_true]
        simp only [old, this, Bool.not_true, Bool.false_eq_true, if_false]
        omega
      · simp only [Bool.not_eq_true] at old
        simp only [old, Bool.not_false, if_true]
        split <;> omega

/-- Parse the files of the queue and everything that they include. The flags of all parsed files
are kept when a file cannot be read or parsed, or includes a path that names no file; in the first
and the last case there is one more flag for the path. Every file is at one place, which is visited
once, so the collection ends. -/
def collect {π : Type} (files : FileSystem) (parser : Parser π) (visited : List Location)
    (frontier : Frontier) (collected : Collected) (state : π) :
    Except (List Flag) Resolution × π :=
  match frontier with
  | ⟨[], _⟩ => (.ok ⟨collected.declarations.program, collected.files, collected.flags⟩, state)
  | ⟨file :: queue, seen⟩ =>
    match _read : files.openText file.path with
    | .error error => (.error (collected.flags ++ [badFile file.shown error.message]), state)
    | .ok (location, text) =>
      if _new : visited.contains location then
        collect files parser visited ⟨queue, seen⟩ collected state
      else
        let (output, declarations, state) :=
          parser.parseFile file text collected.declarations state
        let flags := collected.flags ++ output.flags
        if output.succeeded then
          match Frontier.meetAll file output.includes ⟨queue, seen⟩ with
          | .error flag => (.error (flags ++ [flag]), state)
          | .ok frontier =>
            collect files parser (location :: visited) frontier
              ⟨declarations, collected.files ++ [file], flags⟩ state
        else (.error flags, state)
termination_by (unvisited files visited, frontier.queue.length)
decreasing_by
  · exact Prod.Lex.right _ (by simp)
  · exact Prod.Lex.left _ _ (unvisited_lt (FileSystem.mem_snapshot_of_openText _read) _new)

/-- The program of a root file, or the flags that say why there is none. -/
def resolve {π : Type} (files : FileSystem) (parser : Parser π) (root : ProgramName) (state : π) :
    Except (List Flag) Resolution × π :=
  collect files parser [] (.start root) .none state

/-- What to say about a root file that has no program. -/
def unresolvedMessage (root : ProgramName) : String :=
  "could not resolve the program rooted at '" ++ root.shown ++ "'"

end MachineCompiler.Source
