import MachineCompiler.Proofs.Source.Building
import MachineCompiler.Proofs.Source.Notation
import Mathlib.Data.List.Nodup

/-!
# Programs as mirrors of lines

The declarations that a parser makes of lines, said in terms of the lines: which names are
registered, which machines, variables and functions there are, and whose they are. The parser of the
line notation succeeds on a text when the text says lines and every machine that they take for
declared is declared before, and then the declarations mirror the lines.
-/

namespace MachineCompiler.Source

namespace Line

/-- The machine that a line declares. -/
def machineOf? : Line → Option (MachineRole × String)
  | .machine role name => some (role, name)
  | _ => none

/-- The variable that a line declares, after its machine. -/
def variableOf? : Line → Option (String × String)
  | .variable _ owner name => some (owner, name)
  | _ => none

/-- The owner and the name of the function that a line declares, and the variable that the function
uses. -/
def functionOf? : Line → Option (Option String × String × Option String)
  | .function _ owner name used => some (owner, name, used)
  | _ => none

end Line

namespace Program

/-- The machine of the name is declared under the identifier. -/
def Names (program : Program) (name : String) (id : DeclarationId) : Prop :=
  ∃ machine, program.machineNamed? name = some (id, machine)

/-- The owner of a function is the machine of the name, if there is a name. -/
def Owns (program : Program) : Option String → Option DeclarationId → Prop
  | some name, some id => program.Names name id
  | none, none => True
  | _, _ => False

variable {program later : Program} {name : String} {id : DeclarationId}

/-- A machine that is declared later does not take a name away. -/
theorem Names.mono (h : program.Names name id) (hmachines : program.machines <+: later.machines) :
    later.Names name id := by
  obtain ⟨machine, hfound⟩ := h
  obtain ⟨more, hmore⟩ := hmachines
  exact ⟨machine, by rw [machineNamed?, ← hmore, List.find?_append, ← machineNamed?, hfound]; rfl⟩

theorem Owns.mono {owner : Option String} {id : Option DeclarationId} (h : program.Owns owner id)
    (hmachines : program.machines <+: later.machines) : later.Owns owner id := by
  cases owner <;> cases id
  · exact h
  · exact h
  · exact h
  · exact Names.mono h hmachines

/-- A name leads to a machine of the program. -/
theorem Names.mem (h : program.Names name id) :
    ∃ machine, (id, machine) ∈ program.machines ∧ machine.name = name := by
  obtain ⟨machine, hfound⟩ := h
  have hname := List.find?_some hfound
  exact ⟨machine, List.mem_of_find?_eq_some hfound, by simpa using hname⟩

/-- A name leads to one machine. -/
theorem Names.unique {other : DeclarationId} (h : program.Names name id)
    (hother : program.Names name other) : id = other := by
  obtain ⟨machine, hfound⟩ := h
  obtain ⟨machine', hfound'⟩ := hother
  cases hfound.symm.trans hfound'
  rfl

/-- The name of a machine leads to a machine. -/
theorem exists_names {machine : Machine} (h : (id, machine) ∈ program.machines) :
    ∃ first, program.Names machine.name first := by
  have hsome : (program.machineNamed? machine.name).isSome := by
    rw [machineNamed?, List.find?_isSome]
    exact ⟨_, h, by simp⟩
  obtain ⟨⟨first, found⟩, hfound⟩ := Option.isSome_iff_exists.1 hsome
  exact ⟨first, found, hfound⟩

/-- The function has the owner and the name that a line declares, and its body uses what the line
says. -/
def Performs (program : Program) (function : Function)
    (declared : Option String × String × Option String) : Prop :=
  program.Owns declared.1 function.owner ∧ function.name = declared.2.1 ∧
    ∃ line : NumberedLine, function.body = line.body declared.2.2

/-- A program mirrors lines: it has the machines, variables and functions that the lines declare, in
their order, with the owners that the lines name. -/
structure Mirrors (lines : List Line) (program : Program) : Prop where
  ordered : program.Ordered
  machineLines : program.machines.map (fun entry => (entry.2.role, entry.2.name)) =
    lines.filterMap Line.machineOf?
  variableLines : List.Forall₂ (fun entry declared =>
      entry.2.name = declared.2 ∧ program.Names declared.1 entry.2.owner)
    program.machineVariables (lines.filterMap Line.variableOf?)
  functionLines : List.Forall₂ (fun entry declared => program.Performs entry.2 declared)
    program.functions (lines.filterMap Line.functionOf?)

namespace Mirrors

variable {lines : List Line} {stated : Line}

theorem empty : Mirrors [] Program.empty where
  ordered := Built.empty.ordered
  machineLines := rfl
  variableLines := .nil
  functionLines := .nil

/-- The machines are those that the lines declare. -/
theorem mem_machine_lines (h : program.Mirrors lines) {role : MachineRole} :
    .machine role name ∈ lines ↔
      ∃ entry ∈ program.machines, entry.2.role = role ∧ entry.2.name = name := by
  have hline : .machine role name ∈ lines ↔ (role, name) ∈ lines.filterMap Line.machineOf? := by
    rw [List.mem_filterMap]
    constructor
    · exact fun hmem => ⟨_, hmem, rfl⟩
    · rintro ⟨line, hmem, hmachine⟩
      cases line <;> cases hmachine
      exact hmem
  rw [hline, ← h.machineLines, List.mem_map]
  simp only [Prod.mk.injEq]

/-- A machine is declared by a line exactly if its name leads to a machine. -/
theorem names_iff (h : program.Mirrors lines) :
    (∃ role, .machine role name ∈ lines) ↔ ∃ id, program.Names name id := by
  constructor
  · rintro ⟨role, hmem⟩
    obtain ⟨⟨id, machine⟩, hentry, -, rfl⟩ := h.mem_machine_lines.1 hmem
    exact exists_names hentry
  · rintro ⟨id, hnames⟩
    obtain ⟨machine, hentry, hname⟩ := hnames.mem
    exact ⟨machine.role, h.mem_machine_lines.2 ⟨_, hentry, rfl, hname⟩⟩

/-- What a program has more than a mirror of lines mirrors one more line. -/
theorem grown (h : program.Mirrors lines) (hordered : later.Ordered) {machines : Table Machine}
    {declared : Table Variable} {functions : Table Function}
    (hmachines : later.machines = program.machines ++ machines)
    (hdeclared : later.machineVariables = program.machineVariables ++ declared)
    (hfunctions : later.functions = program.functions ++ functions)
    (hmachine : machines.map (fun entry => (entry.2.role, entry.2.name)) =
      stated.machineOf?.toList)
    (hvariable : List.Forall₂ (fun entry declared =>
      entry.2.name = declared.2 ∧ later.Names declared.1 entry.2.owner)
      declared stated.variableOf?.toList)
    (hfunction : List.Forall₂ (fun entry declared => later.Performs entry.2 declared)
      functions stated.functionOf?.toList) : later.Mirrors (lines ++ [stated]) := by
  have happend {α : Type} (f : Line → Option α) :
      (lines ++ [stated]).filterMap f = lines.filterMap f ++ (f stated).toList := by
    cases hf : f stated <;> simp [hf]
  have hprefix : program.machines <+: later.machines := ⟨machines, hmachines.symm⟩
  constructor
  · exact hordered
  · rw [hmachines, happend, List.map_append, h.machineLines, hmachine]
  · rw [hdeclared, happend]
    refine List.rel_append (h.variableLines.imp fun entry declared hentry => ?_) hvariable
    exact ⟨hentry.1, hentry.2.mono hprefix⟩
  · rw [hfunctions, happend]
    refine List.rel_append (h.functionLines.imp fun entry declared hentry => ?_) hfunction
    exact ⟨hentry.1.mono hprefix, hentry.2⟩

/-- A name leads below the counter. -/
theorem names_lt (h : program.Mirrors lines) (hnames : program.Names name id) :
    id < program.nextId := by
  obtain ⟨machine, hentry, -⟩ := hnames.mem
  exact h.ordered.fresh .machine (id, .machine machine) (List.mem_map.2 ⟨_, hentry, rfl⟩)

end Mirrors

end Program

namespace NumberedLine

variable {line : NumberedLine} {declarations : Declarations} {addition : Addition}
  {lines : List Line} {stated : Line}

theorem map_eq_ok {ε α β : Type} {f : α → β} {result : Except ε α} {value : β} :
    result.map f = .ok value ↔ ∃ a, result = .ok a ∧ f a = value := by
  cases result <;> simp [Except.map]

/-- A machine is found by its name. -/
theorem machine_eq_ok {program : Program} {name : String} {id : DeclarationId} :
    machine program name = .ok id ↔ program.Names name id := by
  unfold machine Program.Names
  cases program.machineNamed? name with
  | none => simp
  | some entry => simp [Prod.ext_iff]

/-- The owner of a function is found by its name. -/
theorem function_owner_eq_ok {program : Program} {name : Option String}
    {id : Option DeclarationId} : functionOwner program name = .ok id ↔ program.Owns name id := by
  cases name with
  | none => cases id <;> simp [functionOwner, Program.Owns]
  | some name =>
    cases hmachine : machine program name <;> cases id <;>
      simp_all [functionOwner, Program.Owns, Except.map, ← machine_eq_ok]

/-- What is added for a line mirrors the line. -/
theorem mirrors_add (h : declarations.program.Mirrors lines)
    (hadd : line.add declarations stated = .ok addition) :
    addition.declarations.program.Mirrors (lines ++ [stated]) := by
  have hordered (declaration : Declaration)
      (hearlier : ∀ reference ∈ declaration.references,
        reference.id < declarations.program.nextId) :
      (declarations.program.add declaration).Ordered :=
    h.ordered.add hearlier
  cases stated with
  | «include» path =>
    cases hadd
    exact h.grown h.ordered (List.append_nil _).symm (List.append_nil _).symm
      (List.append_nil _).symm rfl .nil .nil
  | typeDef name =>
    cases hadd
    refine h.grown (hordered (.typeDef ⟨name, _, _⟩) ?_) (List.append_nil _).symm
      (List.append_nil _).symm (List.append_nil _).symm rfl .nil .nil
    exact List.forall_mem_nil _
  | event name =>
    cases hadd
    refine h.grown (hordered (.event ⟨name, _, _, _⟩) ?_) (List.append_nil _).symm
      (List.append_nil _).symm (List.append_nil _).symm rfl .nil .nil
    exact List.forall_mem_nil _
  | machine role name =>
    cases hadd
    exact h.grown (hordered (.machine ⟨name, role, _, _⟩) (List.forall_mem_nil _)) rfl
      (List.append_nil _).symm (List.append_nil _).symm rfl .nil .nil
  | state path owner groups =>
    obtain ⟨id, howner, rfl⟩ := map_eq_ok.1 hadd
    refine h.grown (hordered (.state ⟨groups, id, _, _, _⟩) ?_)
      (List.append_nil _).symm (List.append_nil _).symm (List.append_nil _).symm rfl .nil .nil
    simpa [Declaration.references] using h.names_lt (machine_eq_ok.1 howner)
  | «variable» path owner name =>
    obtain ⟨id, howner, rfl⟩ := map_eq_ok.1 hadd
    have hnames := machine_eq_ok.1 howner
    refine h.grown (hordered (.variable ⟨name, id, _, _⟩) ?_)
      (List.append_nil _).symm rfl (List.append_nil _).symm rfl (.cons ⟨rfl, hnames⟩ .nil) .nil
    simpa [Declaration.references] using h.names_lt hnames
  | function path owner name used =>
    obtain ⟨id, howner, rfl⟩ := map_eq_ok.1 hadd
    have howns := function_owner_eq_ok.1 howner
    refine h.grown (hordered (.function ⟨name, id, _, _, _, _⟩) ?_) (List.append_nil _).symm
      (List.append_nil _).symm rfl rfl .nil (.cons ⟨howns, rfl, line, rfl⟩ .nil)
    intro reference hreference
    obtain ⟨id, hid, rfl⟩ := List.mem_map.1 hreference
    obtain rfl := Option.mem_toList.1 hid
    cases owner with
    | none => contradiction
    | some owner => exact h.names_lt howns

end NumberedLine

/-- Declarations mirror lines: the program does, the names are those that the lines declare, there
is a message exactly if a name is declared twice, and every machine was declared when it was
needed. -/
structure Declarations.Mirrors (lines : List Line) (declarations : Declarations)
    (flags : List Flag) : Prop where
  program : declarations.program.Mirrors lines
  names : ∀ entry, entry ∈ declarations.names.entries ↔ entry ∈ lines.filterMap Line.declared?
  spotless : flags = [] ↔ (lines.filterMap Line.declared?).Nodup
  errors : ∀ flag ∈ flags, flag.severity = .error
  owners : OwnersFirst lines

namespace NumberedLine

variable {line : NumberedLine} {declarations : Declarations} {addition : Addition}
  {lines : List Line} {stated : Line} {flags : List Flag}

/-- A name is new and registered, or it was registered and there is an error. -/
theorem declare_cases (line : NumberedLine) (category : Category) (name : String)
    (names : Registry) :
    (category, name) ∉ names.entries ∧
        line.declare category name names = ([], ⟨names.entries ++ [(category, name)]⟩) ∨
      (category, name) ∈ names.entries ∧
        ∃ flag, flag.severity = .error ∧ line.declare category name names = ([flag], names) := by
  unfold declare Registry.insert Registry.contains
  by_cases hmem : (category, name) ∈ names.entries
  · refine .inr ⟨hmem, (line.error ("'" ++ name ++ "' is declared more than once")).located
      (line.spanOf name), rfl, ?_⟩
    simp [hmem]
  · exact .inl ⟨hmem, by simp [hmem]⟩

/-- A line is added exactly if the machine that it takes for declared is declared. -/
theorem add_ok_iff :
    (∃ addition, line.add declarations stated = .ok addition) ↔
      ∀ owner, stated.owner? = some owner → ∃ id, declarations.program.Names owner id := by
  have hmap {α : Type} {result : Except LineError α} {f : α → Addition} :
      (∃ addition, result.map f = .ok addition) ↔ ∃ a, result = .ok a := by
    simp only [map_eq_ok]
    exact ⟨fun ⟨_, a, ha, _⟩ => ⟨a, ha⟩, fun ⟨a, ha⟩ => ⟨f a, a, ha, rfl⟩⟩
  cases stated with
  | «include» | typeDef | event | machine =>
    exact ⟨fun _ _ howner => (nomatch howner), fun _ => ⟨_, rfl⟩⟩
  | state | «variable» =>
    simp only [add, hmap, machine_eq_ok, Line.owner?, Option.some.injEq, forall_eq']
  | function path owner name used =>
    simp only [add, hmap, function_owner_eq_ok, Line.owner?]
    cases owner with
    | none => exact ⟨fun _ _ howner => (nomatch howner), fun _ => ⟨none, trivial⟩⟩
    | some owner =>
      simp only [Option.some.injEq, forall_eq']
      exact ⟨fun ⟨id, hid⟩ => by cases id with
        | none => contradiction
        | some id => exact ⟨id, hid⟩, fun ⟨id, hid⟩ => ⟨some id, hid⟩⟩

/-- A line includes what it says that it includes. -/
theorem includes_of_add (hadd : line.add declarations stated = .ok addition) :
    addition.includes = stated.included?.toList := by
  cases stated with
  | «include» | typeDef | event | machine =>
    cases hadd
    rfl
  | state | «variable» | function =>
    obtain ⟨_, -, rfl⟩ := map_eq_ok.1 hadd
    rfl

/-- A line that declares no top-level name changes none and has no messages; the others declare
theirs. -/
theorem names_of_add (hadd : line.add declarations stated = .ok addition) :
    match stated.declared? with
    | none => (addition.flags, addition.declarations.names) = ([], declarations.names)
    | some (category, name) =>
      (addition.flags, addition.declarations.names) =
        line.declare category name declarations.names := by
  cases stated with
  | «include» | typeDef | event | machine =>
    cases hadd
    rfl
  | state | «variable» | function =>
    obtain ⟨_, -, rfl⟩ := map_eq_ok.1 hadd
    rfl

/-- What is added for a line mirrors the line. -/
theorem add_mirrors (h : declarations.Mirrors lines flags)
    (hadd : line.add declarations stated = .ok addition) :
    addition.declarations.Mirrors (lines ++ [stated]) (flags ++ addition.flags) := by
  have hnames := names_of_add hadd
  have howners := h.owners.append fun owner howner =>
    h.program.names_iff.2 (add_ok_iff.1 ⟨_, hadd⟩ owner howner)
  have hprogram := mirrors_add h.program hadd
  cases hdeclared : stated.declared? with
  | none =>
    rw [hdeclared] at hnames
    obtain ⟨hflags, hsame⟩ := Prod.mk.inj hnames
    have hlines : (lines ++ [stated]).filterMap Line.declared? =
        lines.filterMap Line.declared? := by
      simp [hdeclared]
    refine ⟨hprogram, ?_, ?_, ?_, howners⟩
    · rw [hsame, hlines]
      exact h.names
    · rw [hflags, hlines, List.append_nil]
      exact h.spotless
    · rw [hflags, List.append_nil]
      exact h.errors
  | some entry =>
    obtain ⟨category, name⟩ := entry
    rw [hdeclared] at hnames
    have hlines : (lines ++ [stated]).filterMap Line.declared? =
        lines.filterMap Line.declared? ++ [(category, name)] := by
      simp [hdeclared]
    have hnodup : (lines.filterMap Line.declared? ++ [(category, name)]).Nodup ↔
        (category, name) ∉ lines.filterMap Line.declared? ∧
          (lines.filterMap Line.declared?).Nodup := by
      rw [← List.concat_eq_append, List.nodup_concat]
    rcases line.declare_cases category name declarations.names with
      ⟨hnew, hdeclare⟩ | ⟨hold, flag, hflag, hdeclare⟩
    · obtain ⟨hflags, hadded⟩ := Prod.mk.inj (hnames.trans hdeclare)
      rw [h.names] at hnew
      refine ⟨hprogram, fun entry => ?_, ?_, ?_, howners⟩
      · rw [hadded, hlines, List.mem_append, List.mem_append, h.names]
      · rw [hflags, hlines, List.append_nil, h.spotless, hnodup]
        exact ⟨fun hspotless => ⟨hnew, hspotless⟩, And.right⟩
      · rw [hflags, List.append_nil]
        exact h.errors
    · obtain ⟨hflags, hadded⟩ := Prod.mk.inj (hnames.trans hdeclare)
      rw [h.names] at hold
      refine ⟨hprogram, fun entry => ?_, ?_, ?_, howners⟩
      · rw [hadded, hlines, List.mem_append, h.names]
        exact ⟨.inl, fun hentry => hentry.elim id fun hsame => List.mem_singleton.1 hsame ▸ hold⟩
      · rw [hflags, hlines, hnodup]
        exact ⟨fun hnil => by simp at hnil, fun hspotless => absurd hold hspotless.1⟩
      · rw [hflags]
        exact List.forall_mem_append.2 ⟨h.errors, List.forall_mem_singleton.2 hflag⟩

/-- A line without words adds nothing. -/
theorem parse_blank (h : line.words = []) :
    line.parse declarations = .ok ⟨[], [], declarations⟩ := by
  simp [parse, h]

/-- A line with words adds what they say. -/
theorem parse_eq_ok (h : line.words ≠ []) :
    line.parse declarations = .ok addition ↔
      ∃ stated, Line.Says line.words stated ∧ line.add declarations stated = .ok addition := by
  rw [parse, if_neg (by simpa using h)]
  constructor
  · intro hparse
    cases hread : Line.ofWords line.words with
    | error error => simp [hread, Except.bind] at hparse
    | ok stated =>
      rw [hread] at hparse
      exact ⟨stated, Line.says_of_words hread, hparse⟩
  · rintro ⟨stated, hsaid, hadd⟩
    rw [Line.of_words_of_said hsaid]
    exact hadd

end NumberedLine

section Parse

variable {numbered : List NumberedLine} {declarations declared : Declarations}
  {lines stated : List Line} {earlier flags : List Flag} {includes : List String}
  {output : ParseOutput}

/-- The sentences of a file are the words of its lines, if they have any. -/
theorem sentences_cons (line : NumberedLine) (rest : List NumberedLine) :
    sentences ((line :: rest).map NumberedLine.text) =
      if line.words = [] then sentences (rest.map NumberedLine.text)
      else line.words :: sentences (rest.map NumberedLine.text) := by
  have hwords : wordsOf line.text = line.words := rfl
  simp only [sentences, List.map_cons, hwords, List.filter_cons]
  split <;> rename_i hempty <;> simp_all

/-- When the lines of a file are parsed, they say lines, and the declarations mirror them. -/
theorem mirrors_of_parse_lines (h : declarations.Mirrors lines (earlier ++ flags))
    (hparse : parseLines declarations flags includes numbered = (output, declared))
    (hsucceeded : output.succeeded = true) :
    ∃ stated, List.Forall₂ Line.Says (sentences (numbered.map NumberedLine.text)) stated ∧
      declared.Mirrors (lines ++ stated) (earlier ++ output.flags) ∧
      output.includes = includes ++ stated.filterMap Line.included? := by
  induction numbered generalizing declarations lines flags includes with
  | nil =>
    cases hparse
    exact ⟨[], .nil, by simpa using h, by simp⟩
  | cons line rest ih =>
    rw [parseLines] at hparse
    cases hline : line.parse declarations with
    | error error =>
      rw [hline] at hparse
      cases hparse
      contradiction
    | ok addition =>
      rw [hline] at hparse
      rw [sentences_cons]
      by_cases hwords : line.words = []
      · cases (line.parse_blank hwords).symm.trans hline
        rw [if_pos hwords]
        simp only [List.append_nil] at hparse
        exact ih h hparse
      · obtain ⟨first, hsaid, hadd⟩ := (NumberedLine.parse_eq_ok hwords).1 hline
        have hmirrors := NumberedLine.add_mirrors h hadd
        rw [List.append_assoc] at hmirrors
        obtain ⟨others, hothers, hlast, hincludes⟩ := ih hmirrors hparse
        rw [if_neg hwords]
        refine ⟨first :: others, .cons hsaid hothers, by simpa using hlast, ?_⟩
        rw [hincludes, NumberedLine.includes_of_add hadd, List.append_assoc]
        cases hincluded : first.included? <;> simp [hincluded]

/-- When the lines of a file say lines and the machines are declared when they are needed, the file
is parsed. -/
theorem parse_lines_succeeds (h : declarations.Mirrors lines flags)
    (hsaid : List.Forall₂ Line.Says (sentences (numbered.map NumberedLine.text)) stated)
    (howners : OwnersFirst (lines ++ stated)) (flags' : List Flag) :
    (parseLines declarations flags' includes numbered).1.succeeded = true := by
  induction numbered generalizing declarations lines stated flags flags' includes with
  | nil => rfl
  | cons line rest ih =>
    rw [sentences_cons] at hsaid
    rw [parseLines]
    by_cases hwords : line.words = []
    · rw [if_pos hwords] at hsaid
      rw [line.parse_blank hwords]
      exact ih h hsaid howners _
    · rw [if_neg hwords] at hsaid
      cases hsaid with
      | @cons _ first _ others hfirst hothers =>
        have hnamed : ∀ owner, first.owner? = some owner →
            ∃ id, declarations.program.Names owner id := fun owner howner =>
          h.program.names_iff.1 (howners lines first others rfl owner howner)
        obtain ⟨addition, hadd⟩ : ∃ addition, line.add declarations first = .ok addition :=
          NumberedLine.add_ok_iff.2 hnamed
        rw [(NumberedLine.parse_eq_ok hwords).2 ⟨first, hfirst, hadd⟩]
        refine ih (NumberedLine.add_mirrors h hadd) hothers ?_ _
        rwa [List.append_assoc]

/-- The lines of a file are those of its text. -/
theorem sentences_numbered (file : ProgramName) (text : String) :
    sentences ((numberedLines file text).map NumberedLine.text) =
      sentences (Text.lines text.toList) := by
  rw [numberedLines, List.map_map]
  congr 1
  exact (List.map_congr_left fun _ _ => rfl).trans (List.zipIdx_map_fst 0 _)

end Parse

end MachineCompiler.Source
