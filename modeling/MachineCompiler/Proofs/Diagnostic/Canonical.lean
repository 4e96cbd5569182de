import MachineCompiler.Proofs.Diagnostic.Order
import MachineCompiler.Proofs.ProgramName.Identity
import Mathlib.Data.List.Forall2

/-!
# Collections as canonical sets

The order of flags tells two flags apart exactly when they are not equal. Two programs are equal
when they are the same program, so equal flags may still spell a name differently. Up to this
equality, what a collection holds depends on the recorded flags only, not on their order and not
on whether they came one by one or several at once.
-/

namespace MachineCompiler

open Std

instance : LawfulBEqCmp (compare : ProgramName → ProgramName → Ordering) where
  compare_eq_iff_beq {a b} := by
    rw [ProgramName.beq_iff_key]
    show compare a.key b.key = .eq ↔ _
    exact Std.compare_eq_iff_eq

instance : LawfulBEqCmp (compare : Option ProgramName → Option ProgramName → Ordering) where
  compare_eq_iff_beq {a b} := by
    cases a <;> cases b
    case none.none => exact iff_of_true rfl rfl
    case some.some a b =>
      show compare a b = .eq ↔ (a == b) = true
      exact LawfulBEqCmp.compare_eq_iff_beq
    all_goals exact iff_of_false nofun nofun

/-- Regions are equal field by field, their programs as names of the same program. -/
theorem Span.beq_iff {a b : Span} : (a == b) = true ↔ a.startLine = b.startLine ∧
    a.startColumn = b.startColumn ∧ a.endLine = b.endLine ∧ a.endColumn = b.endColumn ∧
    (a.program == b.program) = true := by
  show (_ && (_ && (_ && (_ && _)))) = true ↔ _
  simp only [Bool.and_eq_true, beq_iff_eq]

/-- Flags are equal field by field, their programs as names of the same program. -/
theorem Flag.beq_iff {a b : Flag} : (a == b) = true ↔ a.severity = b.severity ∧
    (a.span == b.span) = true ∧ a.message = b.message ∧ a.code = b.code ∧
    (a.program == b.program) = true := by
  show (_ && (_ && (_ && (_ && _)))) = true ↔ _
  simp only [Bool.and_eq_true, beq_iff_eq]

/-- Severities are told apart by their rank. -/
theorem Severity.rank_inj {a b : Severity} : a.rank = b.rank ↔ a = b := by
  cases a <;> cases b <;> decide

/-- The order of flags puts two flags in one place exactly when they are equal. -/
instance : LawfulBEqCmp Flag.order where
  compare_eq_iff_beq {a b} := by
    have hcode : a.code.value = b.code.value ↔ a.code = b.code :=
      ⟨fun h => congrArg FlagCode.mk h, fun h => congrArg FlagCode.value h⟩
    simp only [Flag.order_eq, compareLex_eq_eq, compareOn, LawfulBEqCmp.compare_eq_iff_beq,
      beq_iff_eq, Severity.rank_inj, hcode, Flag.beq_iff, Span.beq_iff]
    grind

namespace Diagnostics

variable {diagnostics : Diagnostics} {flag other : Flag}

/-- A collection holds a flag when one of its flags is equal to it. -/
theorem holds_iff : diagnostics.holds flag = true ↔
    ∃ held ∈ diagnostics.flags, (flag == held) = true := by
  have hsame (held : Flag) : flag.order held = .eq ↔ (flag == held) = true :=
    LawfulBEqCmp.compare_eq_iff_beq
  simp only [holds, List.any_eq_true, beq_iff_eq, hsame]

/-- Flags are recorded after others. -/
theorem add_all_append (first second : List Flag) :
    diagnostics.addAll (first ++ second) = (diagnostics.addAll first).addAll second :=
  List.foldl_append ..

/-- Only recorded flags are held. -/
theorem mem_of_mem_add_all {flags : List Flag} (h : other ∈ (diagnostics.addAll flags).flags) :
    other ∈ flags ∨ other ∈ diagnostics.flags := by
  unfold addAll at h
  induction flags generalizing diagnostics with
  | nil => exact .inr h
  | cons flag rest ih =>
    rcases ih h with hrest | hplace
    · exact .inl (.tail _ hrest)
    · rcases mem_place hplace with rfl | hheld
      · exact .inl (.head _)
      · exact .inr hheld

/-- Of the flags in ascending order at most one is equal to a given flag. -/
theorem Ascending.count_le_one (h : diagnostics.Ascending) :
    diagnostics.flags.countP (flag == ·) ≤ 1 := by
  obtain ⟨flags⟩ := diagnostics
  induction flags with
  | nil => exact Nat.zero_le _
  | cons head rest ih =>
    obtain ⟨hhead, hrest⟩ := List.pairwise_cons.1 h
    by_cases hflag : (flag == head) = true
    · have hnone : rest.countP (flag == ·) = 0 := by
        refine List.countP_eq_zero.2 fun other hother hsame => ?_
        have horder : head.order other = .eq := TransCmp.eq_trans
          (OrientedCmp.eq_symm (LawfulBEqCmp.compare_eq_iff_beq.2 hflag))
          (LawfulBEqCmp.compare_eq_iff_beq.2 hsame)
        rw [hhead other hother] at horder
        contradiction
      simp [hflag, hnone]
    · simpa [hflag] using ih hrest

/-- No held flag comes before the first one. -/
theorem Ascending.not_before_head {head : Flag} {rest : List Flag}
    (h : Ascending ⟨head :: rest⟩) (hheld : holds ⟨head :: rest⟩ flag = true) :
    flag.order head ≠ .lt := by
  intro hlt
  obtain ⟨held, hmem, hsame⟩ := holds_iff.1 hheld
  have horder : flag.order held = .eq := LawfulBEqCmp.compare_eq_iff_beq.2 hsame
  rcases List.mem_cons.1 hmem with rfl | hmem
  · rw [hlt] at horder
    contradiction
  · rw [TransCmp.lt_trans hlt ((List.pairwise_cons.1 h).1 held hmem)] at horder
    contradiction

/-- After the first flag, the held flags that come after it are left. -/
theorem Ascending.holds_rest {head : Flag} {rest : List Flag} (h : Ascending ⟨head :: rest⟩) :
    holds ⟨rest⟩ flag = true ↔
      holds ⟨head :: rest⟩ flag = true ∧ head.order flag = .lt := by
  simp only [holds, List.any_cons, Bool.or_eq_true, beq_iff_eq, List.any_eq_true]
  constructor
  · rintro ⟨held, hmem, hsame⟩
    refine ⟨.inr ⟨held, hmem, hsame⟩, ?_⟩
    exact TransCmp.lt_of_lt_of_eq ((List.pairwise_cons.1 h).1 held hmem) (OrientedCmp.eq_symm hsame)
  · rintro ⟨hsame | hrest, hlt⟩
    · rw [OrientedCmp.eq_symm hsame] at hlt
      contradiction
    · exact hrest

/-- Collections in ascending order that hold the same flags are equal flag by flag. -/
theorem Ascending.forall_same {first second : Diagnostics} (hfirst : first.Ascending)
    (hsecond : second.Ascending)
    (h : ∀ flag, first.holds flag = true ↔ second.holds flag = true) :
    List.Forall₂ (fun a b => (a == b) = true) first.flags second.flags := by
  obtain ⟨first⟩ := first
  obtain ⟨second⟩ := second
  have hself (flag : Flag) (rest : List Flag) : holds ⟨flag :: rest⟩ flag = true := by
    have horder : flag.order flag = .eq := ReflCmp.compare_self
    simp [holds, horder]
  induction first generalizing second with
  | nil =>
    cases second with
    | nil => exact .nil
    | cons flag rest => exact absurd ((h flag).2 (hself flag rest)) nofun
  | cons flag rest ih =>
    cases second with
    | nil => exact absurd ((h flag).1 (hself flag rest)) nofun
    | cons flag' rest' =>
      have hnot : flag.order flag' ≠ .lt := hsecond.not_before_head ((h flag).1 (hself flag rest))
      have hnot' : flag'.order flag ≠ .lt :=
        hfirst.not_before_head ((h flag').2 (hself flag' rest'))
      have hheads : flag.order flag' = .eq := by
        cases horder : flag.order flag' with
        | lt => exact absurd horder hnot
        | eq => rfl
        | gt => exact absurd (OrientedCmp.lt_of_gt horder) hnot'
      have hrests (other : Flag) : holds ⟨rest⟩ other = true ↔ holds ⟨rest'⟩ other = true := by
        rw [hfirst.holds_rest, hsecond.holds_rest, h, TransCmp.congr_left hheads]
      exact .cons (LawfulBEqCmp.compare_eq_iff_beq.1 hheads)
        (ih (List.pairwise_cons.1 hfirst).2 rest' (List.pairwise_cons.1 hsecond).2 hrests)

/-- One way to record flags: a single one, or several at once. -/
inductive Recording where
  | one (flag : Flag)
  | several (flags : List Flag)

namespace Recording

/-- The flags that are recorded, in turn. -/
def flags : Recording → List Flag
  | one flag => [flag]
  | several flags => flags

/-- The flags of several recordings, in turn. -/
def allFlags (recordings : List Recording) : List Flag :=
  recordings.flatMap flags

end Recording

/-- The collection after a recording. -/
def record (diagnostics : Diagnostics) : Recording → Diagnostics
  | .one flag => (diagnostics.insert flag).1
  | .several flags => diagnostics.addAll flags

/-- The collection that begins empty, after the given recordings. -/
def ofRecordings (recordings : List Recording) : Diagnostics :=
  recordings.foldl record empty

/-- It makes no difference how the flags are grouped. -/
theorem of_recordings_eq (recordings : List Recording) :
    ofRecordings recordings = empty.addAll (Recording.allFlags recordings) := by
  unfold ofRecordings
  generalize empty = diagnostics
  induction recordings generalizing diagnostics with
  | nil => rfl
  | cons recording rest ih =>
    have hrecord : diagnostics.record recording = diagnostics.addAll recording.flags := by
      cases recording <;> rfl
    rw [List.foldl_cons, ih, hrecord]
    exact (add_all_append ..).symm

/-- What a collection is to the flags that were recorded in it. -/
structure IsCanonical (recorded : List Flag) (diagnostics : Diagnostics) : Prop where
  /-- The flags are in strictly ascending order. -/
  ascending : diagnostics.Ascending
  /-- Only recorded flags are held. -/
  sound : ∀ held ∈ diagnostics.flags, held ∈ recorded
  /-- Each recorded flag is equal to exactly one held flag. -/
  once : ∀ flag ∈ recorded, diagnostics.flags.countP (flag == ·) = 1
  /-- One more flag is refused exactly when an equal one is held. -/
  refuses : ∀ flag, (diagnostics.insert flag).2 = false ↔
    ∃ held ∈ diagnostics.flags, (flag == held) = true

theorem ascending_empty : empty.Ascending :=
  List.Pairwise.nil

/-- Flags recorded in an empty collection make it canonical. -/
theorem is_canonical_add_all (recorded : List Flag) :
    IsCanonical recorded (empty.addAll recorded) where
  ascending := ascending_empty.add_all
  sound held h := (mem_of_mem_add_all h).resolve_right List.not_mem_nil
  once flag h := by
    have hheld : (empty.addAll recorded).holds flag = true :=
      holds_add_all.2 (.inl ⟨flag, h, ReflCmp.compare_self⟩)
    have hpos := List.countP_pos_iff.2 (holds_iff.1 hheld)
    exact Nat.le_antisymm ascending_empty.add_all.count_le_one hpos
  refuses flag := by
    rw [← holds_iff, insert, Bool.not_eq_false']

/-- Flags are totally ordered up to equality, and a collection is a canonical set of them: however
permuted flags are recorded, one by one or several at once, each is held once in ascending order,
repetitions are refused, and the collections are equal flag by flag. -/
theorem diagnostics_are_canonical {first second : List Recording}
    (h : (Recording.allFlags first).Perm (Recording.allFlags second)) :
    TransCmp Flag.order ∧ LawfulBEqCmp Flag.order ∧
      IsCanonical (Recording.allFlags first) (ofRecordings first) ∧
      IsCanonical (Recording.allFlags second) (ofRecordings second) ∧
      List.Forall₂ (fun a b => (a == b) = true) (ofRecordings first).flags
        (ofRecordings second).flags := by
  rw [of_recordings_eq, of_recordings_eq]
  have hfirst := is_canonical_add_all (Recording.allFlags first)
  have hsecond := is_canonical_add_all (Recording.allFlags second)
  refine ⟨inferInstance, inferInstance, hfirst, hsecond, ?_⟩
  refine hfirst.ascending.forall_same hsecond.ascending fun flag => ?_
  simp only [holds_add_all, h.mem_iff]

/-- An error in the program at the given path. -/
def errorIn (path : String) : Flag :=
  (Flag.error "unknown type" .plain).inProgram (ProgramName.ofPath (.ofString path)).toOption

/-- A program that is spelled in two ways has one flag, the one that was recorded first. -/
theorem diagnostics_are_canonical_spellings :
    let first : List Recording :=
      [.one (errorIn "/w/a.p"), .several [errorIn "/w/b.p", errorIn "/w/A.p"]]
    let second : List Recording :=
      [.several [errorIn "/w/A.p", errorIn "/w/b.p"], .one (errorIn "/w/a.p")]
    (Recording.allFlags first).Perm (Recording.allFlags second) ∧
      (ofRecordings first).flags = [errorIn "/w/a.p", errorIn "/w/b.p"] ∧
      (ofRecordings second).flags = [errorIn "/w/A.p", errorIn "/w/b.p"] ∧
      errorIn "/w/a.p" ≠ errorIn "/w/A.p" ∧
      List.Forall₂ (fun a b => (a == b) = true) (ofRecordings first).flags
        (ofRecordings second).flags := by
  intro first second
  have hperm : (Recording.allFlags first).Perm (Recording.allFlags second) :=
    List.reverse_perm (Recording.allFlags second)
  exact ⟨hperm, by decide +kernel, by decide +kernel, by decide +kernel,
    (diagnostics_are_canonical hperm).2.2.2.2⟩

end Diagnostics

end MachineCompiler
