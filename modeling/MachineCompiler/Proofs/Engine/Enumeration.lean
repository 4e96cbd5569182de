import MachineCompiler.Engine.Pattern
import Mathlib.Data.List.Basic
import Mathlib.Data.List.Induction

/-!
# Which proofs an enumeration keeps

A proof is kept exactly when it proves an instance of the pattern and fewer proofs before it than the
limit prove an instance with the same goal. So of each goal the earliest proofs are kept, as many as
the limit allows, and the proofs of other goals between them make no difference.
-/

namespace MachineCompiler.Engine

/-- The proofs of a goal. Goals are the same when they print the same. -/
def ofGoal (goal : String) (proofs : List Proof) : List Proof :=
  proofs.filter fun proof => proof.conclusion.print == goal

/-- The proofs of instances of the pattern. -/
def Pattern.instances (pattern : Pattern) (proofs : List Proof) : List Proof :=
  proofs.filter fun proof => pattern.accepts proof.conclusion

/-- The proof at the place is kept: it is one of an instance, and the places before it have fewer
proofs of instances with its goal than the limit. -/
def Pattern.keeps (pattern : Pattern) (limit : Nat) (proofs : List Proof) (place : Nat) : Bool :=
  proofs[place]?.any fun proof =>
    pattern.accepts proof.conclusion &&
      (ofGoal proof.conclusion.print (pattern.instances (proofs.take place))).length < limit

/-- The proofs that are kept, in their order. -/
def Pattern.earliest (pattern : Pattern) (limit : Nat) (proofs : List Proof) : List Proof :=
  ((List.range proofs.length).filter (pattern.keeps limit proofs)).filterMap (proofs[·]?)

variable {pattern : Pattern} {limit place : Nat} {proofs : List Proof} {proof : Proof}
  {goal : String} {seen : List String}

/-! ## One pass over the proofs -/

theorem Pattern.instances_append_singleton :
    pattern.instances (proofs ++ [proof]) =
      pattern.instances proofs ++ if pattern.accepts proof.conclusion then [proof] else [] := by
  rw [instances, List.filter_append, List.filter_cons, List.filter_nil, instances]

theorem of_goal_cons :
    ofGoal goal (proof :: proofs) =
      if proof.conclusion.print = goal then proof :: ofGoal goal proofs
      else ofGoal goal proofs := by
  simp [ofGoal, List.filter_cons]

/-- What is kept stands in the order of the proofs. -/
theorem capped_sublist : (capped limit seen proofs).Sublist proofs := by
  induction proofs generalizing seen with
  | nil => exact .slnil
  | cons proof rest ih =>
    rw [capped]
    split
    · exact ih.cons_cons proof
    · exact ih.cons proof

/-- Of each goal the first proofs are kept, as many as are missing up to the limit. -/
theorem of_goal_capped :
    ofGoal goal (capped limit seen proofs) =
      (ofGoal goal proofs).take (limit - seen.count goal) := by
  induction proofs generalizing seen with
  | nil => simp [capped, ofGoal]
  | cons proof rest ih =>
    rw [capped, of_goal_cons]
    by_cases hgoal : proof.conclusion.print = goal
    · subst hgoal
      rw [if_pos rfl]
      split
      · rename_i hroom
        have hleft : limit - seen.count proof.conclusion.print =
            limit - (seen.count proof.conclusion.print + 1) + 1 := by omega
        rw [of_goal_cons, if_pos rfl, ih, List.count_cons_self, hleft, List.take_succ_cons]
      · rename_i hfull
        have hnone : limit - seen.count proof.conclusion.print = 0 := by omega
        rw [ih, hnone, List.take_zero, List.take_zero]
    · rw [if_neg hgoal]
      split
      · rw [of_goal_cons, if_neg hgoal, ih, List.count_cons_of_ne hgoal]
      · rw [ih]

/-- A proof at the end is kept if the proofs of its goal before it leave room for it. -/
theorem capped_append_singleton :
    capped limit seen (proofs ++ [proof]) =
      capped limit seen proofs ++
        if seen.count proof.conclusion.print +
            (ofGoal proof.conclusion.print proofs).length < limit
        then [proof] else [] := by
  induction proofs generalizing seen with
  | nil =>
    by_cases hroom : seen.count proof.conclusion.print < limit <;> simp [capped, ofGoal, hroom]
  | cons first rest ih =>
    rw [List.cons_append, capped, capped, of_goal_cons]
    by_cases hgoal : first.conclusion.print = proof.conclusion.print
    · rw [if_pos hgoal, List.length_cons, ← hgoal]
      split
      · rw [ih, ← hgoal, List.count_cons_self, List.cons_append]
        congr 3
        simp only [eq_iff_iff]
        omega
      · -- The goal has all its proofs already, so neither this proof of it nor the last one is kept.
        rw [ih, ← hgoal, if_neg (by omega), if_neg (by omega)]
    · rw [if_neg hgoal]
      split
      · rw [ih, List.count_cons_of_ne hgoal, List.cons_append]
      · rw [ih]

/-! ## The places of what is kept -/

/-- Proofs behind a place make no difference to it. -/
theorem Pattern.keeps_append_singleton (h : place < proofs.length) :
    pattern.keeps limit (proofs ++ [proof]) place = pattern.keeps limit proofs place := by
  rw [keeps, keeps, List.getElem?_append_left h, List.take_append_of_le_length (Nat.le_of_lt h)]

theorem Pattern.keeps_last :
    pattern.keeps limit (proofs ++ [proof]) proofs.length =
      (pattern.accepts proof.conclusion &&
        (ofGoal proof.conclusion.print (pattern.instances proofs)).length < limit) := by
  rw [keeps, List.getElem?_concat_length, List.take_left, Option.any_some]

theorem Pattern.earliest_append_singleton :
    pattern.earliest limit (proofs ++ [proof]) =
      pattern.earliest limit proofs ++
        if pattern.keeps limit (proofs ++ [proof]) proofs.length then [proof] else [] := by
  have hbefore : ((List.range proofs.length).filter
        (pattern.keeps limit (proofs ++ [proof]))).filterMap ((proofs ++ [proof])[·]?) =
      pattern.earliest limit proofs := by
    rw [earliest, List.filter_congr fun place hplace =>
      keeps_append_singleton (List.mem_range.1 hplace)]
    refine List.filterMap_congr fun place hplace => ?_
    exact List.getElem?_append_left (List.mem_range.1 (List.mem_filter.1 hplace).1)
  rw [earliest, List.length_append, List.length_singleton, List.range_succ, List.filter_append,
    List.filterMap_append, hbefore]
  congr 1
  by_cases hkeeps : pattern.keeps limit (proofs ++ [proof]) proofs.length = true <;>
    simp [hkeeps]

/-- One pass that counts the proofs of each goal keeps the proofs at the places that are kept. -/
theorem capped_eq_earliest :
    capped limit [] (pattern.instances proofs) = pattern.earliest limit proofs := by
  induction proofs using List.reverseRecOn with
  | nil => rfl
  | append_singleton proofs proof ih =>
    rw [Pattern.earliest_append_singleton, Pattern.keeps_last,
      Pattern.instances_append_singleton]
    by_cases haccepts : pattern.accepts proof.conclusion = true
    · rw [if_pos haccepts, capped_append_singleton, ih]
      simp [haccepts]
    · rw [if_neg haccepts, List.append_nil, ih]
      simp [haccepts]

/-! ## Enumerations -/

/-- An enumeration under a pattern that can be read keeps the proofs at exactly the places where a
proof of an instance stands with fewer proofs of its goal before it than the limit. They are a
subsequence of the proofs of instances; of each goal they are the earliest ones, as many as there are
up to the limit. What is kept of a goal depends on the proofs of its instances alone, not on what
stands between them. -/
theorem enumeration_caps_each_goal {pattern : String} {read : Pattern}
    (hread : Pattern.read pattern = .ok read) (proofs : List Proof) (limit : Nat) :
    ∃ kept, enumerate proofs pattern limit = .ok ⟨kept, []⟩ ∧
      kept = read.earliest limit proofs ∧
      kept.Sublist (read.instances proofs) ∧ (read.instances proofs).Sublist proofs ∧
      (∀ goal, (ofGoal goal kept).length =
        min limit (ofGoal goal (read.instances proofs)).length) ∧
      (∀ goal, ofGoal goal kept = (ofGoal goal (read.instances proofs)).take limit) ∧
      ∀ others goal,
        ofGoal goal (read.instances others) = ofGoal goal (read.instances proofs) →
          ofGoal goal (read.earliest limit others) = ofGoal goal kept := by
  have hgoals (proofs : List Proof) (goal : String) :
      ofGoal goal (read.earliest limit proofs) =
        (ofGoal goal (read.instances proofs)).take limit := by
    rw [← capped_eq_earliest, of_goal_capped, List.count_nil, Nat.sub_zero]
  refine ⟨read.earliest limit proofs, ?_, rfl, ?_, List.filter_sublist, ?_, hgoals proofs, ?_⟩
  · rw [enumerate, hread, ← capped_eq_earliest, Pattern.instances]
  · rw [← capped_eq_earliest]
    exact capped_sublist
  · intro goal
    rw [hgoals, List.length_take]
  · intro others goal hsame
    rw [hgoals, hgoals, hsame]

/-- Three goals whose proofs stand among each other, one of them no instance of the pattern: of the
goal with three proofs the last one is left out. -/
theorem enumeration_caps_each_goal_of_three :
    let proofOf (expression type : String) : Proof :=
      ⟨["error"], .apply "TypeOf" [.symbol expression, .symbol type], []⟩
    let proofs := [proofOf "x" "ERROR", proofOf "y" "ERROR", proofOf "x" "ERROR",
      proofOf "y" "INT", proofOf "x" "ERROR", proofOf "y" "ERROR"]
    ∃ kept, enumerate proofs "TypeOf(_, ERROR)" 2 = .ok ⟨kept, []⟩ ∧
      kept = [proofOf "x" "ERROR", proofOf "y" "ERROR", proofOf "x" "ERROR",
        proofOf "y" "ERROR"] := by
  intro proofOf proofs
  have hread : Pattern.read "TypeOf(_, ERROR)" = .ok ⟨"TypeOf", ["_", "ERROR"]⟩ := by
    cbv
  have hplaces : (List.range proofs.length).filter
      (Pattern.keeps ⟨"TypeOf", ["_", "ERROR"]⟩ 2 proofs) = [0, 1, 2, 5] := by
    decide +kernel
  obtain ⟨kept, hkept, heq, -⟩ := enumeration_caps_each_goal hread proofs 2
  refine ⟨kept, hkept, ?_⟩
  rw [heq, Pattern.earliest, hplaces]
  rfl

end MachineCompiler.Engine
