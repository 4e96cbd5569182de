import Mathlib.Data.List.Perm.Subperm
import Mathlib.Data.Nat.Find
import MachineCompiler.Proofs.Source.Aliases

/-!
# The counters of a supply are a shortcut

A supply of aliases counts the candidates of each base that were used up and begins to look behind
them. A base may itself look like a numbered one, so a name handed out for one base can take a
candidate away from another, and the counters do not tell by themselves what is taken. They are a
shortcut and nothing else: what is handed out is the first candidate that was not handed out since
the last reset, as if only those names were remembered and every search began with the base. A
counter never exceeds the number of those names, so it fits wherever that number does.
-/

namespace MachineCompiler.Source

namespace AliasSupply

variable {supply : AliasSupply} {base other : String} {taken : List String} {count number : Nat}

/-! ## The first name that is not taken -/

theorem exists_untaken (base : String) (taken : List String) :
    ∃ number, candidate base number ∉ taken :=
  ⟨_, (first_free_not_taken base 0 taken).2⟩

/-- The first candidate of a base, from the base itself on, that is not among the given names. -/
def firstUntaken (base : String) (taken : List String) : String :=
  candidate base (Nat.find (exists_untaken base taken))

theorem first_untaken_eq (hfree : candidate base number ∉ taken)
    (hleast : ∀ earlier < number, candidate base earlier ∈ taken) :
    firstUntaken base taken = candidate base number := by
  have hfind : Nat.find (exists_untaken base taken) = number :=
    (Nat.find_eq_iff _).2 ⟨hfree, fun earlier hlt => not_not.2 (hleast earlier hlt)⟩
  rw [firstUntaken, hfind]

theorem first_untaken_spec (base : String) (taken : List String) :
    ∃ number, firstUntaken base taken = candidate base number ∧ candidate base number ∉ taken ∧
      ∀ earlier < number, candidate base earlier ∈ taken :=
  ⟨_, rfl, Nat.find_spec (exists_untaken base taken),
    fun _ hlt => not_not.1 (Nat.find_min (exists_untaken base taken) hlt)⟩

/-- A search passes over taken candidates only. -/
theorem mem_of_lt_first_free (hfrom : count ≤ number)
    (hlt : number < firstFree base count taken) : candidate base number ∈ taken := by
  induction count, taken using firstFree.induct base with
  | case1 count taken hmem ih =>
    rw [firstFree, dif_pos hmem] at hlt
    obtain rfl | hlater := Nat.eq_or_lt_of_le hfrom
    · exact hmem
    · exact List.mem_of_mem_erase (ih hlater hlt)
  | case2 count taken hfree =>
    rw [firstFree, dif_neg hfree] at hlt
    omega

/-! ## What the counters say -/

/-- What is counted of a base was handed out, and nothing was handed out twice. -/
structure Sound (supply : AliasSupply) : Prop where
  counted : ∀ base, ∀ number < supply.usedOf base, candidate base number ∈ supply.assigned
  distinct : supply.assigned.Nodup

theorem Sound.empty : AliasSupply.empty.Sound where
  counted _ _ hlt := absurd hlt (Nat.not_lt_zero _)
  distinct := List.nodup_nil

/-- A supply that is sound hands out the first name that is not taken. -/
theorem Sound.allocate_eq (h : supply.Sound) :
    (supply.allocate base).1 = firstUntaken base supply.assigned := by
  refine (first_untaken_eq (first_free_not_taken base _ _).2 fun earlier hlt => ?_).symm
  -- Candidates before the counter were handed out; the search goes over the ones after it.
  rcases Nat.lt_or_ge earlier (supply.usedOf base) with hcounted | hsearched
  · exact h.counted base earlier hcounted
  · exact mem_of_lt_first_free hsearched hlt

theorem assigned_allocate :
    (supply.allocate base).2.assigned = (supply.allocate base).1 :: supply.assigned := rfl

/-- A request counts the candidates of its base up to the one that is handed out. -/
theorem used_of_allocate_self :
    (supply.allocate base).2.usedOf base =
      firstFree base (supply.usedOf base) supply.assigned + 1 := by
  simp [usedOf, allocate]

/-- A request leaves the counters of other bases alone. -/
theorem used_of_allocate_of_ne (hne : other ≠ base) :
    (supply.allocate base).2.usedOf other = supply.usedOf other := by
  have hkept (used : List (String × Nat)) :
      (used.filter (·.1 != base)).lookup other = used.lookup other := by
    induction used with
    | nil => rfl
    | cons entry rest ih =>
      by_cases hentry : entry.1 = base
      · have hpassed : (other == entry.1) = false := by simpa [hentry] using hne
        rw [List.filter_cons_of_neg (by simp [hentry]), ih, List.lookup_cons, hpassed]
      · rw [List.filter_cons_of_pos (by simpa using hentry), List.lookup_cons, List.lookup_cons, ih]
  have hpassed : (other == base) = false := beq_eq_false_iff_ne.2 hne
  simp only [usedOf, allocate, List.lookup_cons, hpassed, hkept]

theorem Sound.allocate (h : supply.Sound) : (supply.allocate base).2.Sound where
  counted other number hlt := by
    rw [assigned_allocate]
    by_cases hother : other = base
    · subst hother
      rw [used_of_allocate_self] at hlt
      obtain hlast | hearlier := Nat.eq_or_lt_of_le (Nat.le_of_lt_succ hlt)
      · exact hlast ▸ List.mem_cons_self
      · refine List.mem_cons_of_mem _ ?_
        rcases Nat.lt_or_ge number (supply.usedOf other) with hcounted | hsearched
        · exact h.counted other number hcounted
        · exact mem_of_lt_first_free hsearched hearlier
    · rw [used_of_allocate_of_ne hother] at hlt
      exact List.mem_cons_of_mem _ (h.counted other number hlt)
  distinct := List.nodup_cons.2 ⟨supply.allocate_fresh base, h.distinct⟩

/-- The candidates that are counted of a base are as many different names. -/
theorem Sound.used_of_le (h : supply.Sound) (base : String) :
    supply.usedOf base ≤ supply.assigned.length := by
  have hdistinct : ((List.range (supply.usedOf base)).map (candidate base)).Nodup :=
    List.nodup_range.map fun _ _ => candidate_injective
  have hassigned : (List.range (supply.usedOf base)).map (candidate base) ⊆ supply.assigned := by
    intro name hname
    obtain ⟨number, hnumber, rfl⟩ := List.mem_map.1 hname
    exact h.counted base number (List.mem_range.1 hnumber)
  calc
    supply.usedOf base = ((List.range (supply.usedOf base)).map (candidate base)).length := by simp
    _ ≤ supply.assigned.length := (hdistinct.subperm hassigned).length_le

/-! ## Requests -/

/-- What a supply is asked for: a name for a base, or to forget what was handed out. -/
inductive Request where
  | allocate (base : String)
  | reset
deriving DecidableEq

/-- The request is for a name. -/
def Request.isAllocation : Request → Bool
  | .allocate _ => true
  | .reset => false

/-- Answer a request with the name that is asked for, if one is. -/
def answer (supply : AliasSupply) : Request → Option String × AliasSupply
  | .allocate base => (some (supply.allocate base).1, (supply.allocate base).2)
  | .reset => (none, .empty)

/-- Answer requests one after the other. -/
def serve (supply : AliasSupply) : List Request → List (Option String) × AliasSupply
  | [] => ([], supply)
  | request :: rest =>
    let served := (supply.answer request).2.serve rest
    ((supply.answer request).1 :: served.1, served.2)

/-- The answers of a supply that remembers the names handed out and nothing else: every search
begins with the base. -/
def plainAnswers (taken : List String) : List Request → List (Option String)
  | [] => []
  | .allocate base :: rest =>
    some (firstUntaken base taken) :: plainAnswers (firstUntaken base taken :: taken) rest
  | .reset :: rest => none :: plainAnswers [] rest

/-- The names handed out when one more answer is given. -/
def noteAnswer (names : List String) : Option String → List String
  | some name => name :: names
  | none => []

/-- The names handed out since the last reset, the latest one first. -/
def handedOut (answers : List (Option String)) : List String :=
  answers.foldl noteAnswer []

theorem Sound.answer (h : supply.Sound) (request : Request) : (supply.answer request).2.Sound := by
  cases request with
  | allocate base => exact h.allocate
  | reset => exact .empty

theorem assigned_answer (request : Request) :
    (supply.answer request).2.assigned =
      noteAnswer supply.assigned (supply.answer request).1 := by
  cases request <;> rfl

theorem Sound.serve (h : supply.Sound) (requests : List Request) :
    (supply.serve requests).2.Sound := by
  induction requests generalizing supply with
  | nil => exact h
  | cons request rest ih => exact ih (h.answer request)

/-- The answers tell which names are assigned. -/
theorem assigned_serve (requests : List Request) :
    (supply.serve requests).2.assigned =
      (supply.serve requests).1.foldl noteAnswer supply.assigned := by
  induction requests generalizing supply with
  | nil => rfl
  | cons request rest ih =>
    rw [serve, ih, List.foldl_cons, assigned_answer]

/-- The answers do not depend on the counters. -/
theorem Sound.serve_eq_plain (h : supply.Sound) (requests : List Request) :
    (supply.serve requests).1 = plainAnswers supply.assigned requests := by
  induction requests generalizing supply with
  | nil => rfl
  | cons request rest ih =>
    rw [AliasSupply.serve, ih (h.answer request)]
    cases request with
    | allocate base => rw [plainAnswers, ← h.allocate_eq]; rfl
    | reset => rfl

/-- At most one name is handed out for each request for one. -/
theorem length_assigned_serve_le (supply : AliasSupply) (requests : List Request) :
    (supply.serve requests).2.assigned.length ≤
      supply.assigned.length + requests.countP Request.isAllocation := by
  induction requests generalizing supply with
  | nil => exact Nat.le_refl _
  | cons request rest ih =>
    refine Nat.le_trans (ih (supply.answer request).2) ?_
    cases request with
    | allocate base =>
      rw [List.countP_cons_of_pos rfl, answer, assigned_allocate, List.length_cons]
      omega
    | reset =>
      rw [List.countP_cons_of_neg Bool.false_ne_true]
      exact Nat.add_le_add_right (Nat.zero_le _) _

/-- Whatever was asked for before, the answers are those of a supply that remembers only the names
handed out, the next name is the first candidate that was not handed out since the last reset,
the names handed out since then differ, and no counter exceeds their number. So with fewer requests
for names than there are numbers of 32 bits, every counter is such a number. -/
theorem supply_is_plain (requests : List Request) (base : String) :
    let served := AliasSupply.empty.serve requests
    let names := handedOut served.1
    served.1 = plainAnswers [] requests ∧
      (∃ number, (served.2.allocate base).1 = candidate base number ∧
        candidate base number ∉ names ∧ ∀ earlier < number, candidate base earlier ∈ names) ∧
      names.Nodup ∧
      served.2.usedOf base ≤ names.length ∧
      (requests.countP Request.isAllocation < UInt32.size →
        served.2.usedOf base < UInt32.size) := by
  intro served names
  have hsound : served.2.Sound := Sound.empty.serve requests
  have hnames : served.2.assigned = names := assigned_serve requests
  have hused : served.2.usedOf base ≤ names.length := hnames ▸ hsound.used_of_le base
  have hlength : names.length ≤ requests.countP Request.isAllocation := by
    have hbound := length_assigned_serve_le .empty requests
    rw [hnames] at hbound
    exact Nat.le_trans hbound (Nat.le_of_eq (Nat.zero_add _))
  refine ⟨Sound.empty.serve_eq_plain requests, ?_, hnames ▸ hsound.distinct, hused, fun hfew => ?_⟩
  · rw [hsound.allocate_eq, hnames]
    exact first_untaken_spec base names
  · exact Nat.lt_of_le_of_lt (Nat.le_trans hused hlength) hfew

-- The number that was taken by a base of its own is passed over.
example : (AliasSupply.empty.serve [.allocate "x_1", .allocate "x", .allocate "x"]).1 =
    [some "x_1", some "x", some "x_2"] := by
  decide +kernel

end AliasSupply

end MachineCompiler.Source
