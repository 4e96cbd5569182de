import MachineCompiler.Diagnostic.Collection

/-!
# The order of flags

Flags are compared field by field, so their order is transitive, and a collection that begins empty
stays strictly ascending: every recorded flag is in it once, and nothing else is.
-/

namespace MachineCompiler

open Std

instance : TransCmp (compare : ProgramName → ProgramName → Ordering) :=
  inferInstanceAs (TransCmp (compareOn ProgramName.key))

/-- Programs that may be absent are compared like other optional values. -/
theorem Flag.compare_program_eq : Flag.compareProgram = compare := by
  funext a b
  cases a <;> cases b <;> rfl

/-- The order of flags, one field after the other. -/
theorem Flag.order_eq : Flag.order =
    compareLex (compareOn fun flag : Flag => flag.severity.rank)
      (compareLex (compareOn Flag.program)
      (compareLex (compareOn fun flag => flag.span.startLine)
      (compareLex (compareOn fun flag => flag.span.startColumn)
      (compareLex (compareOn Flag.message)
      (compareLex (compareOn fun flag => flag.code.value)
      (compareLex (compareOn fun flag => flag.span.endLine)
      (compareLex (compareOn fun flag => flag.span.endColumn)
        (compareOn fun flag => flag.span.program)))))))) := by
  funext a b
  simp only [Flag.order, compare_program_eq, Ordering.then_assoc]
  rfl

instance : TransCmp Flag.order := by
  rw [Flag.order_eq]
  infer_instance

/-- Flags that are not told apart are equally severe. -/
theorem Flag.severity_of_order_eq {a b : Flag} (h : a.order b = .eq) : a.severity = b.severity := by
  have hrank : compare a.severity.rank b.severity.rank = .eq := by
    rw [Flag.order_eq] at h
    exact (compareLex_eq_eq.1 h).1
  have := Nat.compare_eq_eq.1 hrank
  revert this
  cases a.severity <;> cases b.severity <;> simp [Severity.rank]

/-- Flags that are not told apart are errors both or neither. -/
theorem Flag.is_error_congr {a b : Flag} (h : a.order b = .eq) : a.isError = b.isError := by
  rw [isError, isError, severity_of_order_eq h]

namespace Diagnostics

variable {diagnostics : Diagnostics} {flag other : Flag}

/-- The flags are in strictly ascending order. -/
def Ascending (diagnostics : Diagnostics) : Prop :=
  diagnostics.flags.Pairwise fun a b => a.order b = .lt

/-- Only the flag itself is new when it is put in its place. -/
theorem mem_place {flags : List Flag} (h : other ∈ place flag flags) :
    other = flag ∨ other ∈ flags := by
  induction flags with
  | nil => exact .inl (List.mem_singleton.1 h)
  | cons head rest ih =>
    rw [place] at h
    split at h
    · exact List.mem_cons.1 h
    · exact .inr h
    · rcases List.mem_cons.1 h with rfl | h
      · exact .inr (.head _)
      · exact (ih h).imp_right (.tail _)

/-- A flag has one place among ascending flags. -/
theorem Ascending.add (h : diagnostics.Ascending) : (diagnostics.add flag).Ascending := by
  obtain ⟨flags⟩ := diagnostics
  show (place flag flags).Pairwise _
  induction flags with
  | nil => exact List.pairwise_singleton ..
  | cons head rest ih =>
    obtain ⟨hhead, hrest⟩ := List.pairwise_cons.1 h
    rw [place]
    split <;> rename_i horder
    · refine List.pairwise_cons.2 ⟨fun other hother => ?_, h⟩
      rcases List.mem_cons.1 hother with rfl | hother
      · exact horder
      · exact TransCmp.lt_trans horder (hhead other hother)
    · exact h
    · refine List.pairwise_cons.2 ⟨fun other hother => ?_, ih hrest⟩
      rcases mem_place hother with rfl | hother
      · exact OrientedCmp.gt_iff_lt.1 horder
      · exact hhead other hother

/-- A collection with one more flag holds that flag and what it held before. -/
theorem holds_add : (diagnostics.add flag).holds other = true ↔
    other.order flag = .eq ∨ diagnostics.holds other = true := by
  obtain ⟨flags⟩ := diagnostics
  show ((place flag flags).any fun held => other.order held == .eq) = true ↔
    _ ∨ (flags.any fun held => other.order held == .eq) = true
  induction flags with
  | nil => simp [place]
  | cons head rest ih =>
    rw [place]
    split <;> rename_i horder
    · simp
    · -- The flag that is held stands for the one that is recorded again.
      have hsame (h : other.order flag = .eq) :
          ((head :: rest).any fun held => other.order held == .eq) = true := by
        simp [TransCmp.eq_trans h horder]
      exact (or_iff_right_of_imp hsame).symm
    · simp only [List.any_cons, Bool.or_eq_true, ih, beq_iff_eq, or_left_comm]

/-- Nothing that is held is lost when more flags are recorded, and these are held as well. -/
theorem holds_add_all {flags : List Flag} : (diagnostics.addAll flags).holds other = true ↔
    (∃ flag ∈ flags, other.order flag = .eq) ∨ diagnostics.holds other = true := by
  unfold addAll
  induction flags generalizing diagnostics with
  | nil => simp
  | cons flag rest ih =>
    rw [List.foldl_cons, ih, holds_add]
    simp only [List.mem_cons, exists_eq_or_imp, or_assoc, or_left_comm]

/-- A collection has errors once an error is recorded, and only then. -/
theorem has_errors_add : (diagnostics.add flag).hasErrors = true ↔
    flag.isError = true ∨ diagnostics.hasErrors = true := by
  obtain ⟨flags⟩ := diagnostics
  show (place flag flags).any Flag.isError = true ↔ _ ∨ flags.any Flag.isError = true
  induction flags with
  | nil => simp [place]
  | cons head rest ih =>
    rw [place]
    split <;> rename_i horder
    · simp
    · rw [List.any_cons, Flag.is_error_congr horder]
      simp
    · simp only [List.any_cons, Bool.or_eq_true, ih, or_left_comm]

theorem has_errors_add_all {flags : List Flag} : (diagnostics.addAll flags).hasErrors = true ↔
    (∃ flag ∈ flags, flag.isError = true) ∨ diagnostics.hasErrors = true := by
  unfold addAll
  induction flags generalizing diagnostics with
  | nil => simp
  | cons flag rest ih =>
    rw [List.foldl_cons, ih, has_errors_add]
    simp only [List.mem_cons, exists_eq_or_imp, or_assoc, or_left_comm]

theorem Ascending.add_all (h : diagnostics.Ascending) {flags : List Flag} :
    (diagnostics.addAll flags).Ascending := by
  unfold addAll
  induction flags generalizing diagnostics with
  | nil => exact h
  | cons flag rest ih => exact ih h.add

end Diagnostics

end MachineCompiler
