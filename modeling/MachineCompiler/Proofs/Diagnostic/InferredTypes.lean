import MachineCompiler.Proofs.Diagnostic.Order

/-!
# Flags about inferred types

Inferred types are reported by flags of their own, which are no errors. The order of flags tells
them from all others, so whether they are recorded or not makes no difference to the other flags of
a collection.
-/

namespace MachineCompiler

open Std

/-- The flag tells an inferred type. -/
def Flag.isInferredType (flag : Flag) : Bool :=
  flag.severity == .info && "inferred type: ".toList.isPrefixOf flag.message.toList

/-- A flag that tells an inferred type is no error. -/
theorem Flag.not_error_of_inferred_type {flag : Flag} (h : flag.isInferredType = true) :
    flag.isError = false := by
  simp only [isInferredType, Bool.and_eq_true, beq_iff_eq] at h
  simp [isError, h.1]

/-- Flags that are not told apart say the same. -/
theorem Flag.message_of_order_eq {a b : Flag} (h : a.order b = .eq) : a.message = b.message := by
  simp only [Flag.order_eq, compareLex_eq_eq] at h
  exact LawfulEqCmp.eq_of_compare h.2.2.2.2.1

/-- Flags that are not told apart tell an inferred type both or neither. -/
theorem Flag.is_inferred_type_congr {a b : Flag} (h : a.order b = .eq) :
    a.isInferredType = b.isInferredType := by
  rw [isInferredType, isInferredType, severity_of_order_eq h, message_of_order_eq h]

namespace Diagnostics

variable {diagnostics : Diagnostics} {flag : Flag}

/-- The collection without the flags about inferred types. -/
def withoutTypes (diagnostics : Diagnostics) : Diagnostics :=
  ⟨diagnostics.flags.filter fun flag => !flag.isInferredType⟩

/-- A flag below all others takes the first place. -/
theorem place_below {flags : List Flag} (h : ∀ other ∈ flags, flag.order other = .lt) :
    place flag flags = flag :: flags := by
  cases flags with
  | nil => rfl
  | cons head rest => rw [place, h head List.mem_cons_self]

/-- Recording a flag about an inferred type makes no difference to the other flags, and any other
flag is recorded among these. -/
theorem Ascending.without_types_add (h : diagnostics.Ascending) :
    (diagnostics.add flag).withoutTypes =
      if flag.isInferredType then diagnostics.withoutTypes
      else diagnostics.withoutTypes.add flag := by
  obtain ⟨flags⟩ := diagnostics
  suffices hplace : (place flag flags).filter (fun flag => !flag.isInferredType) =
      if flag.isInferredType then flags.filter fun flag => !flag.isInferredType
      else place flag (flags.filter fun flag => !flag.isInferredType) by
    rw [show (Diagnostics.mk flags).add flag = ⟨place flag flags⟩ from rfl, withoutTypes, hplace]
    split <;> rfl
  induction flags with
  | nil => cases hflag : flag.isInferredType <;> simp [place, hflag]
  | cons head rest ih =>
    obtain ⟨hhead, hrest⟩ := List.pairwise_cons.1 h
    rw [place]
    split <;> rename_i horder
    · have hbelow : ∀ other ∈ head :: rest, flag.order other = .lt :=
        List.forall_mem_cons.2
          ⟨horder, fun other hother => TransCmp.lt_trans horder (hhead other hother)⟩
      rw [place_below fun other hother => hbelow other (List.mem_filter.1 hother).1]
      cases hflag : flag.isInferredType <;> simp [hflag]
    -- The flag is there already, as one that tells an inferred type if it does.
    · have hsame := Flag.is_inferred_type_congr horder
      cases hflag : flag.isInferredType <;> simp [← hsame, hflag, place, horder]
    · cases hkind : head.isInferredType <;> simp [hkind, ih hrest, place, horder]
      split <;> rfl

/-- Flags about inferred types may be recorded or not. -/
theorem Ascending.without_types_add_all (h : diagnostics.Ascending) {flags : List Flag}
    (hflags : ∀ flag ∈ flags, flag.isInferredType = true) :
    (diagnostics.addAll flags).withoutTypes = diagnostics.withoutTypes := by
  unfold addAll
  induction flags generalizing diagnostics with
  | nil => rfl
  | cons flag rest ih =>
    obtain ⟨hflag, hrest⟩ := List.forall_mem_cons.1 hflags
    rw [List.foldl_cons, ih h.add hrest, h.without_types_add, if_pos hflag]

/-- The flags about inferred types say nothing about whether there are errors. -/
theorem has_errors_without_types (diagnostics : Diagnostics) :
    diagnostics.withoutTypes.hasErrors = diagnostics.hasErrors := by
  refine Bool.eq_iff_iff.2 ?_
  simp only [hasErrors, withoutTypes, List.any_eq_true, List.mem_filter, Bool.not_eq_true']
  refine ⟨fun ⟨flag, ⟨hmem, _⟩, herror⟩ => ⟨flag, hmem, herror⟩, fun ⟨flag, hmem, herror⟩ => ?_⟩
  refine ⟨flag, ⟨hmem, Bool.eq_false_iff.2 fun hkind => ?_⟩, herror⟩
  rw [Flag.not_error_of_inferred_type hkind] at herror
  contradiction

end Diagnostics

end MachineCompiler
