import MachineCompiler.Proofs.Source.Mirror
import MachineCompiler.Proofs.Source.WordSearch

/-!
# Regions of declarations and uses

Regions are looked up on the line: what a line declares points at the first free occurrence of the
word that names it, and a use at the first one of the word that is used. So the region is that of the
word itself unless an earlier word of the line mentions it. For the names of declarations that means
that an earlier word is the same; the path of a function may mention the variable that it uses.
-/

namespace MachineCompiler.Source

open Text

/-! ## What regions are about -/

/-- The place, among the words of a line, of the word that names what the line declares. -/
def namingPlace? : List String → Option Nat
  | ["type", _] | ["event", _] | ["machine", _] | ["state", _] | ["var", _] => some 1
  | "fun" :: _ => some 1
  | [_, "machine", _] => some 2
  | _ => none

/-- The place of the variable that a function uses. -/
def usingPlace? : List String → Option Nat
  | ["fun", _, "uses", _] => some 3
  | _ => none

namespace Declaration

/-- The region of a declaration. -/
def span : Declaration → Span
  | .typeDef declaration => declaration.span
  | .enumTypeDef declaration => declaration.span
  | .modelType declaration => declaration.span
  | .event declaration => declaration.span
  | .machine declaration => declaration.span
  | .state declaration => declaration.span
  | .variable declaration => declaration.span
  | .transition declaration => declaration.span
  | .function declaration => declaration.span
  | .anonFunction declaration => declaration.span
  | .handler declaration => declaration.span
  | .property declaration => declaration.span

/-- The region of the body of a function. -/
def bodySpan? : Declaration → Option Span
  | .function declaration => declaration.body.span?
  | _ => none

end Declaration

namespace NumberedLine

/-- The bytes of the line on which `word` stands if `before` is what stands before it. -/
def rangeOf (line : NumberedLine) (before word : List Char) : Span :=
  ⟨line.number, byteSize before + 1, line.number, byteSize before + 1 + byteSize word,
    some line.file⟩

/-- Behind `before` stands the word that has the place among the words of the line. -/
structure Stands (line : NumberedLine) (place : Nat) (before word : List Char) : Prop where
  wordAt : WordAt line.code before word
  place : (Text.words before).length = place

/-- The region was looked up for the word at the place: it is one of that word on the line, at its
place or before it, and it is the one at its place exactly if no earlier word mentions it. -/
structure PointsTo (line : NumberedLine) (place : Nat) (region : Span) : Prop where
  stands : ∃ before word, line.Stands place before word
  direct : ∀ before word, line.Stands place before word →
    (region = line.rangeOf before word ↔ ∀ earlier ∈ Text.words before, ¬Mentions earlier word)
  occurs : ∀ before word, line.Stands place before word →
    ∃ front, front ++ word <+: line.text ∧ front.length ≤ before.length ∧
      region = line.rangeOf front word

/-- The declaration points at the word that names it, and its body at the word that it uses. Before
the word that names it are keywords, which mention it only if one of them is the same word. -/
structure Locates (line : NumberedLine) (declaration : Declaration) : Prop where
  name : ∃ place, namingPlace? line.words = some place ∧ line.PointsTo place declaration.span
  use : ∀ place, usingPlace? line.words = some place →
    ∃ region, declaration.bodySpan? = some region ∧ line.PointsTo place region
  plain : ∀ place before word, namingPlace? line.words = some place →
    line.Stands place before word →
      ((∀ earlier ∈ Text.words before, ¬Mentions earlier word) ↔ word ∉ Text.words before)

/-- What a line adds: one declaration that points at the words of the line, with flags that point at
its name; or nothing, if it names nothing. -/
inductive Adds (line : NumberedLine) : Option Declaration → List Flag → Prop where
  | nothing (hplace : namingPlace? line.words = none) : Adds line none []
  | declaration {place : Nat} {declaration : Declaration} {flags : List Flag}
      (hplace : namingPlace? line.words = some place) (hlocates : line.Locates declaration)
      (hflags : ∀ flag ∈ flags, line.PointsTo place flag.span) :
      Adds line (some declaration) flags

variable {line : NumberedLine} {before word : List Char} {place : Nat} {name : String}
  {declaration : Declaration} {declarations declared : Declarations} {addition : Addition}

/-! ## The region of a word -/

theorem span_of_eq {found : Nat} {front : List Char}
    (h : wholeWord? word none 0 0 line.text = some found) (hfound : found = byteSize front) :
    line.spanOf (String.ofList word) = line.rangeOf front word := by
  rw [spanOf, String.toList_ofList, h, Option.getD_some, hfound, rangeOf]

theorem range_of_inj {front : List Char} (h : line.rangeOf front word = line.rangeOf before word) :
    byteSize front = byteSize before :=
  Nat.succ.inj (congrArg Span.startColumn h)

theorem append_prefix_of_stands (h : line.Stands place before word) :
    before ++ word <+: line.text := by
  obtain ⟨comment, htext, -⟩ := before_first_append ['/', '/'] line.text
  obtain ⟨after, hcode, -⟩ := h.wordAt.split
  exact ⟨after ++ comment, by rw [htext, ← code, hcode, List.append_assoc (before ++ word)]⟩

/-- The search for a word goes through the words before it and ends where it stands: it does not come
to a comment, nor does a comment touch the word. -/
theorem whole_word_of_stands (h : line.Stands place before word) :
    wholeWord? word none 0 0 line.text =
      (wholeWord? word none 0 0 before).or (some (byteSize before)) := by
  obtain ⟨comment, htext, hcomment⟩ := before_first_append ['/', '/'] line.text
  have hfree : Free comment.head? := by
    obtain rfl | ⟨rest, rfl⟩ := hcomment
    · exact free_none
    · show isIdentifierChar '/' = false
      decide +kernel
  rw [htext]
  exact whole_word_of_word_at h.wordAt hfree

theorem not_mentioned_iff (h : line.Stands place before word) :
    (∀ earlier ∈ Text.words before, ¬Mentions earlier word) ↔
      wholeWord? word none 0 0 before = none := by
  have hword := h.wordAt.isWord
  rw [whole_word_eq_none_iff hword.nonempty free_none, mentions_iff_words hword]
  simp

/-- A word is looked up where it stands unless an earlier word mentions it, and else before that. -/
theorem span_of_stands (h : line.Stands place before word) :
    (line.spanOf (String.ofList word) = line.rangeOf before word ↔
        ∀ earlier ∈ Text.words before, ¬Mentions earlier word) ∧
      ∃ front, front ++ word <+: line.text ∧ front.length ≤ before.length ∧
        line.spanOf (String.ofList word) = line.rangeOf front word := by
  have hnonempty := h.wordAt.isWord.nonempty
  have hsearch := whole_word_of_stands h
  have hbefore := append_prefix_of_stands h
  cases hfound : wholeWord? word none 0 0 before with
  | none =>
    rw [hfound, Option.none_or] at hsearch
    have hspan := span_of_eq hsearch rfl
    exact ⟨iff_of_true hspan ((not_mentioned_iff h).2 hfound), before, hbefore, Nat.le_refl _, hspan⟩
  | some found =>
    rw [hfound, Option.some_or] at hsearch
    obtain ⟨front, hoccurs, -, hfront⟩ := exists_of_whole_word hnonempty hfound
    rw [Nat.zero_add] at hfront
    have hspan := span_of_eq hsearch hfront
    -- The whole occurrence is before the word, so its region begins earlier.
    obtain ⟨rest, rfl⟩ := hoccurs.append_prefix
    refine ⟨iff_of_false ?_ ?_, front, ?_, ?_, hspan⟩
    · intro heq
      rw [hspan] at heq
      have hbytes := range_of_inj heq
      have hpositive := byte_size_pos hnonempty
      rw [byte_size_append, byte_size_append] at hbytes
      omega
    · intro hno
      rw [not_mentioned_iff h, hfound] at hno
      contradiction
    · exact (List.prefix_append _ _).trans ((List.prefix_append _ _).trans hbefore)
    · rw [List.length_append, List.length_append]
      omega

/-- The region of a word of the line points to its place. -/
theorem points_to_span_of (h : line.words[place]? = some name) :
    line.PointsTo place (line.spanOf name) := by
  have hword {before word : List Char} (hstands : line.Stands place before word) :
      String.ofList word = name := by
    obtain ⟨after, hwords⟩ := hstands.wordAt.words_eq
    rw [words, List.getElem?_map, hwords, ← hstands.place, List.getElem?_append_right (Nat.le_refl _),
      Nat.sub_self] at h
    exact Option.some.inj h
  refine ⟨?_, fun before word hstands => ?_, fun before word hstands => ?_⟩
  · rw [words, List.getElem?_map, Option.map_eq_some_iff] at h
    obtain ⟨word, hget, rfl⟩ := h
    obtain ⟨hlt, hget⟩ := List.getElem?_eq_some_iff.1 hget
    have hwords := List.take_append_drop place (Text.words line.code)
    rw [List.drop_eq_getElem_cons hlt, hget] at hwords
    obtain ⟨before, hat, hbefore⟩ := exists_word_at hwords.symm
    refine ⟨before, word, hat, ?_⟩
    rw [hbefore, List.length_take, Nat.min_eq_left (Nat.le_of_lt hlt)]
  · rw [← hword hstands]
    exact (span_of_stands hstands).1
  · rw [← hword hstands]
    exact (span_of_stands hstands).2

/-! ## One line -/

/-- A repeated name is reported at the word. -/
theorem span_of_declare {category : Category} {names : Registry} :
    ∀ flag ∈ (line.declare category name names).1, flag.span = line.spanOf name := by
  intro flag hflag
  unfold declare at hflag
  cases hinsert : names.insert category name with
  | mk registry isNew =>
    rw [hinsert] at hflag
    cases isNew with
    | true => cases hflag
    | false =>
      rw [List.mem_singleton.1 hflag]
      rfl

/-- The words before the one that names what a line declares are keywords. -/
theorem identifier_of_keyword {words : List String} {stated : Line} (hsaid : Line.Says words stated)
    (hplace : namingPlace? words = some place) :
    ∀ keyword ∈ words.take place, keyword.toList.all isIdentifierChar = true := by
  have hone {keyword : String} {rest : List String}
      (hkeyword : keyword.toList.all isIdentifierChar = true) (hplace : some 1 = some place) :
      ∀ word ∈ (keyword :: rest).take place, word.toList.all isIdentifierChar = true := by
    cases hplace
    exact List.forall_mem_singleton.2 hkeyword
  cases hsaid with
  | «include» => simp [namingPlace?] at hplace
  | typeDef | event | machine | state | «variable» | function | helper | user | helperUser =>
    exact hone (by decide +kernel) hplace
  | model | spec =>
    obtain rfl : 2 = place := Option.some.inj hplace
    simp only [List.take_succ_cons, List.take_zero]
    decide +kernel

/-- Keywords mention a word only if one of them is that word. -/
theorem keywords_mention_iff {stated : Line} (hsaid : Line.Says line.words stated)
    (hplace : namingPlace? line.words = some place) (hstands : line.Stands place before word) :
    (∀ earlier ∈ Text.words before, ¬Mentions earlier word) ↔ word ∉ Text.words before := by
  have hplain : ∀ earlier ∈ Text.words before, ∀ c ∈ earlier, isIdentifierChar c = true := by
    intro earlier hearlier
    obtain ⟨after, hwords⟩ := hstands.wordAt.words_eq
    have htake : line.words.take place = (Text.words before).map String.ofList := by
      rw [words, hwords, ← hstands.place, List.map_append, List.take_left' (List.length_map _)]
    have hkeyword := identifier_of_keyword hsaid hplace (String.ofList earlier)
      (htake ▸ List.mem_map_of_mem hearlier)
    rw [String.toList_ofList] at hkeyword
    exact List.all_eq_true.1 hkeyword
  constructor
  · intro hno hword
    exact hno word hword ((mentions_iff_eq (hplain word hword)).2 rfl)
  · intro hword earlier hearlier hmentions
    rw [mentions_iff_eq (hplain earlier hearlier)] at hmentions
    exact hword (hmentions ▸ hearlier)

/-- A declaration with the regions of words points at these words. -/
theorem Adds.of_spans {stated : Line} {flags : List Flag} (hsaid : Line.Says line.words stated)
    (hplace : namingPlace? line.words = some place) (hname : line.words[place]? = some name)
    (hspan : declaration.span = line.spanOf name)
    (huse : ∀ place, usingPlace? line.words = some place → ∃ used,
      line.words[place]? = some used ∧ declaration.bodySpan? = some (line.spanOf used))
    (hflags : ∀ flag ∈ flags, flag.span = line.spanOf name) :
    line.Adds (some declaration) flags := by
  have hpoints := points_to_span_of hname
  refine .declaration hplace ⟨⟨place, hplace, hspan ▸ hpoints⟩, ?_, ?_⟩ ?_
  · intro place hplace
    obtain ⟨used, hused, hbody⟩ := huse place hplace
    exact ⟨_, hbody, points_to_span_of hused⟩
  · intro place before word hplace hstands
    exact keywords_mention_iff hsaid hplace hstands
  · intro flag hflag
    rw [hflags flag hflag]
    exact hpoints

theorem adds_of_add {stated : Line} (hsaid : Line.Says line.words stated)
    (h : line.add declarations stated = .ok addition) :
    ∃ declaration, addition.declarations.program =
        (declaration.elim declarations.program declarations.program.add) ∧
      line.Adds declaration addition.flags := by
  generalize hwords : line.words = words at hsaid
  have hspans {place : Nat} {name : String} (declaration : Declaration) {flags : List Flag}
      (hplace : namingPlace? words = some place) (hname : words[place]? = some name) :=
    @Adds.of_spans line place name declaration stated flags (hwords ▸ hsaid)
      (hwords ▸ hplace) (hwords ▸ hname)
  simp only [hwords] at hspans
  cases hsaid with
  | «include» path =>
    cases h
    exact ⟨none, rfl, .nothing (by rw [hwords]; simp [namingPlace?])⟩
  | typeDef name =>
    cases h
    exact ⟨_, rfl, hspans (.typeDef _) rfl rfl rfl nofun span_of_declare⟩
  | event name =>
    cases h
    exact ⟨_, rfl, hspans (.event _) rfl rfl rfl nofun span_of_declare⟩
  | machine name | model name | spec name =>
    cases h
    exact ⟨_, rfl, hspans (.machine _) rfl rfl rfl nofun span_of_declare⟩
  | state hpath =>
    obtain ⟨id, -, rfl⟩ := map_eq_ok.1 h
    exact ⟨_, rfl, hspans (.state _) rfl rfl rfl nofun nofun⟩
  | «variable» hpath =>
    obtain ⟨id, -, rfl⟩ := map_eq_ok.1 h
    exact ⟨_, rfl, hspans (.variable _) rfl rfl rfl nofun nofun⟩
  | function hpath =>
    obtain ⟨id, -, rfl⟩ := map_eq_ok.1 h
    exact ⟨_, rfl, hspans (.function _) rfl rfl rfl nofun nofun⟩
  | helper hname =>
    cases h
    exact ⟨_, rfl, hspans (.function _) rfl rfl rfl nofun nofun⟩
  | user hpath =>
    obtain ⟨id, -, rfl⟩ := map_eq_ok.1 h
    refine ⟨_, rfl, hspans (.function _) rfl rfl rfl ?_ nofun⟩
    rintro place ⟨⟩
    exact ⟨_, rfl, rfl⟩
  | helperUser hname =>
    cases h
    refine ⟨_, rfl, hspans (.function _) rfl rfl rfl ?_ nofun⟩
    rintro place ⟨⟩
    exact ⟨_, rfl, rfl⟩

theorem adds_of_parse (h : line.parse declarations = .ok addition) :
    ∃ declaration, addition.declarations.program =
        (declaration.elim declarations.program declarations.program.add) ∧
      line.Adds declaration addition.flags := by
  by_cases hwords : line.words = []
  · cases (line.parse_blank hwords).symm.trans h
    exact ⟨none, rfl, .nothing (by rw [hwords]; rfl)⟩
  · obtain ⟨stated, hsaid, hadd⟩ := (parse_eq_ok hwords).1 h
    exact adds_of_add hsaid hadd

end NumberedLine

/-! ## The lines of a file -/

section Files

variable {declarations declared : Declarations} {flags : List Flag} {includes : List String}
  {output : ParseOutput}

/-- How the reading of a file ends: behind its last line, or at a bad line, whose error is the last
flag. -/
inductive Ends (declared : Declarations) (output : ParseOutput) :
    List NumberedLine → List Flag → Prop where
  | done (hsucceeded : output.succeeded = true) : Ends declared output [] []
  | bad {line : NumberedLine} {rest : List NumberedLine} {error : LineError}
      (hfailed : output.succeeded = false) (hparse : line.parse declared = .error error) :
      Ends declared output (line :: rest) [line.error (error.message (String.ofList line.code))]

/-- The lines that are accepted add declarations and flags, line by line. -/
theorem adds_of_parse_lines {numbered : List NumberedLine}
    (hparse : parseLines declarations flags includes numbered = (output, declared)) :
    ∃ accepted rest added failure, numbered = accepted ++ rest ∧ Ends declared output rest failure ∧
      List.Forall₂ (fun line entry => line.Adds entry.1 entry.2) accepted added ∧
      declared.program = (added.filterMap Prod.fst).foldl Program.add declarations.program ∧
      output.flags = flags ++ added.flatMap Prod.snd ++ failure := by
  induction numbered generalizing declarations flags includes with
  | nil =>
    cases hparse
    exact ⟨[], [], [], [], rfl, .done rfl, .nil, rfl, by simp⟩
  | cons line rest ih =>
    rw [parseLines] at hparse
    cases hline : line.parse declarations with
    | error error =>
      rw [hline] at hparse
      cases hparse
      exact ⟨[], line :: rest, [], _, rfl, .bad rfl hline, .nil, rfl, by simp⟩
    | ok addition =>
      rw [hline] at hparse
      obtain ⟨accepted, unread, added, failure, rfl, hends, hadded, hprogram, hflags⟩ := ih hparse
      obtain ⟨declaration, hstep, hadds⟩ := NumberedLine.adds_of_parse hline
      refine ⟨line :: accepted, unread, (declaration, addition.flags) :: added, failure, rfl, hends,
        .cons hadds hadded, ?_, ?_⟩
      · rw [hprogram, hstep, List.filterMap_cons]
        cases declaration <;> rfl
      · rw [hflags, List.flatMap_cons, List.append_assoc flags]

/-- A file is read line by line up to its end or to a bad line. Every line before that adds one
declaration if it names one, and the regions of the declaration, of the flags for its name and of the
use in its body are those of the words of the line, each unless an earlier word mentions it. -/
theorem regions_point_at_words (file : ProgramName) (text : String) (declarations : Declarations)
    (parsed : List ProgramName) :
    match lineParser.parseFile file text declarations parsed with
    | (output, declared, _) => ∃ accepted rest added failure,
        numberedLines file text = accepted ++ rest ∧ Ends declared output rest failure ∧
          List.Forall₂ (fun line entry => line.Adds entry.1 entry.2) accepted added ∧
          declared.program = (added.filterMap Prod.fst).foldl Program.add declarations.program ∧
          output.flags = added.flatMap Prod.snd ++ failure := by
  cases hparse : parseLines declarations [] [] (numberedLines file text) with
  | mk output declared =>
    simp only [lineParser, hparse]
    exact adds_of_parse_lines hparse

end Files

/-! ## A use that is looked up in a path -/

namespace SharedWord

/-- A function is named like the variable that it uses. -/
def text : String :=
  "machine Main\nfun Main.count uses count\n"

/-- The file of the text. -/
def file : ProgramName :=
  ⟨(Path.ofString "/w/main.p").components.foldl ProgramName.walk []⟩

/-- The line of the function. -/
def line : NumberedLine :=
  ⟨file, 2, "fun Main.count uses count".toList⟩

/-- The text is accepted, and the use of the variable is located in the path of the function. -/
theorem use_is_misplaced :
    ∃ output declared function before word,
      lineParser.parseFile file text .empty [] = (output, declared, [file]) ∧
        output.succeeded = true ∧ line ∈ numberedLines file text ∧
        declared.program.functions = [(1, function)] ∧
        usingPlace? line.words = some 3 ∧ line.Stands 3 before word ∧
        function.body.span? = some ⟨2, 10, 2, 15, some file⟩ ∧
        line.rangeOf before word = ⟨2, 21, 2, 26, some file⟩ := by
  have hsolid : "count".toList.any isBlank = false := by decide +kernel
  have hlast : "fun Main.count uses ".toList.getLast?.all isBlank = true := by decide +kernel
  have hstands : line.Stands 3 "fun Main.count uses ".toList "count".toList :=
    ⟨⟨⟨by decide, fun c hc => eq_false_of_ne_true (List.any_eq_false.1 hsolid c hc)⟩,
      (Option.all_eq_true _ _).1 hlast, [], rfl, nofun⟩, by decide +kernel⟩
  exact ⟨_, _, _, _, _, rfl, by decide +kernel,
    List.mem_map.2 ⟨(line.text, 1), by decide +kernel, rfl⟩, rfl, rfl, hstands, rfl, rfl⟩

end SharedWord

end MachineCompiler.Source
