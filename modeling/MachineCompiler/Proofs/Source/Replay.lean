import MachineCompiler.Source.Includes

/-!
# Parsing once more

A parser may remember what it has parsed. When two states of a parser cannot be told apart by what
it reports from then on, finding the files of a program gives the same from both of them.
-/

namespace MachineCompiler.Source

variable {π : Type} {parser : Parser π} {first second : π} {files : FileSystem}

/-- The parser behaves alike from the two states: they are related in a way that parsing any file
keeps, with the same report and the same declarations. -/
def Parser.Alike (parser : Parser π) (first second : π) : Prop :=
  ∃ related : π → π → Prop, related first second ∧
    ∀ first second, related first second → ∀ file text declarations,
      ∃ output declared first' second',
        parser.parseFile file text declarations first = (output, declared, first') ∧
        parser.parseFile file text declarations second = (output, declared, second') ∧
        related first' second'

/-- One file is parsed alike, and the parser behaves alike afterwards. -/
theorem Parser.Alike.parse_file (h : parser.Alike first second) {file : ProgramName}
    {text : String} {declarations declared : Declarations} {output : ParseOutput} {first' : π}
    (hparse : parser.parseFile file text declarations first = (output, declared, first')) :
    ∃ second', parser.parseFile file text declarations second = (output, declared, second') ∧
      parser.Alike first' second' := by
  obtain ⟨related, hrelated, hkept⟩ := h
  obtain ⟨_, _, _, second', hfirst, hsecond, hrelated'⟩ :=
    hkept first second hrelated file text declarations
  cases hparse.symm.trans hfirst
  exact ⟨second', hsecond, related, hrelated', hkept⟩

/-- A parser that reports the same whatever its state is behaves alike from all states. -/
theorem Parser.alike_of_stateless (h : ∀ first second file text declarations,
      (parser.parseFile file text declarations first).1
          = (parser.parseFile file text declarations second).1 ∧
        (parser.parseFile file text declarations first).2.1
          = (parser.parseFile file text declarations second).2.1) : parser.Alike first second := by
  refine ⟨fun _ _ => True, trivial, fun first second _ file text declarations => ?_⟩
  obtain ⟨houtput, hdeclared⟩ := h first second file text declarations
  exact ⟨_, _, _, (parser.parseFile file text declarations second).2.2, rfl,
    by rw [houtput, hdeclared], trivial⟩

/-- One turn of the search for files: the first file of the queue is read and parsed. -/
theorem collect_cons (visited : List Location) (file : ProgramName) (queue seen : List ProgramName)
    (collected : Collected) (state : π) :
    collect files parser visited ⟨file :: queue, seen⟩ collected state =
      match files.openText file.path with
      | .error error => (.error (collected.flags ++ [badFile file.shown error.message]), state)
      | .ok (location, text) =>
        if visited.contains location then
          collect files parser visited ⟨queue, seen⟩ collected state
        else
          let (output, declarations, state) :=
            parser.parseFile file text collected.declarations state
          let flags := collected.flags ++ output.flags
          if output.succeeded then
            match Frontier.meetAll file output.includes ⟨queue, seen⟩ with
            | .error flag => (.error (flags ++ [flag]), state)
            | .ok frontier =>
              collect files parser (location :: visited) frontier
                ⟨declarations, collected.files ++ [file], flags⟩ state
          else (.error flags, state) := by
  rw [collect]
  split <;> rename_i hread <;> simp only [hread] <;> rfl

variable (files) in
/-- From states that the parser behaves alike from, the same files are found and parsed. -/
theorem collect_alike (visited : List Location) (frontier : Frontier) (collected : Collected)
    (h : parser.Alike first second) :
    ∃ result first' second',
      collect files parser visited frontier collected first = (result, first') ∧
      collect files parser visited frontier collected second = (result, second') ∧
      parser.Alike first' second' := by
  -- The recursion goes by the first state; what the parser reports decides about the branches, so
  -- the second state takes the same ones.
  fun_induction collect files parser visited frontier collected first generalizing second with
  | case1 => exact ⟨_, _, _, rfl, by rw [collect], h⟩
  | case2 visited collected first file queue seen error hread =>
    exact ⟨_, _, second, rfl, by simp only [collect_cons, hread], h⟩
  | case3 visited collected first file queue seen location text hread hvisited ih =>
    obtain ⟨result, first', second', hfirst, hsecond, hrest⟩ := ih h
    exact ⟨result, first', second', hfirst,
      by simp only [collect_cons, hread, hvisited, if_true, hsecond], hrest⟩
  | case4 visited collected first file queue seen location text hread hvisited output declared
      first' hparse flags hsucceeded flag =>
    rename_i hmeet
    obtain ⟨second', hsecond, hrest⟩ := h.parse_file hparse
    refine ⟨_, _, second', rfl, ?_, hrest⟩
    simp only [collect_cons, hread, hvisited, hsecond, hsucceeded, hmeet, Bool.false_eq_true,
      if_true, if_false, flags]
  | case5 visited collected first file queue seen location text hread hvisited output declared
      first' hparse flags hsucceeded frontier =>
    rename_i hmeet ih
    obtain ⟨second', hsecond, hrest⟩ := h.parse_file hparse
    obtain ⟨result, first'', second'', hfirst, hsecond', hrest'⟩ := ih hrest
    refine ⟨result, first'', second'', hfirst, ?_, hrest'⟩
    simp only [collect_cons, hread, hvisited, hsecond, hsucceeded, hmeet, Bool.false_eq_true,
      if_true, if_false]
    exact hsecond'
  | case6 visited collected first file queue seen location text hread hvisited output declared
      first' hparse flags =>
    rename_i hfailed
    obtain ⟨second', hsecond, hrest⟩ := h.parse_file hparse
    refine ⟨_, _, second', rfl, ?_, hrest⟩
    simp only [collect_cons, hread, hvisited, hsecond, hfailed, Bool.false_eq_true, if_false, flags]

end MachineCompiler.Source
