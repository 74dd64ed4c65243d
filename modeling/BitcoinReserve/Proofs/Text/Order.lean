import BitcoinReserve.Text.Basic
import Mathlib

/-!
# Texts in order

Texts stand in the order of a dictionary over the values of their code points. Sorting a list without
repetitions puts each text strictly before the next.
-/
namespace BitcoinReserve

theorem CodePoint.value_injective : Function.Injective CodePoint.value :=
  Function.LeftInverse.injective CodePoint.ofNat_value

namespace Text

def values (t : Text) : List Nat := t.points.map CodePoint.value

theorem values_injective : Function.Injective values := by
  rintro ⟨cs⟩ ⟨ds⟩ same
  exact congrArg Text.mk (List.map_injective_iff.mpr CodePoint.value_injective same)

theorem ordered_iff (cs ds : List CodePoint) :
    ordered cs ds = true ↔ ¬ ds.map CodePoint.value < cs.map CodePoint.value := by
  induction cs generalizing ds with
  | nil => simp [ordered]
  | cons c cs ih =>
    cases ds with
    | nil => simp [ordered]
    | cons d ds =>
      have heads : c = d ↔ c.value = d.value := CodePoint.value_injective.eq_iff.symm
      simp only [ordered, Bool.or_eq_true, Bool.and_eq_true, decide_eq_true_eq, heads, ih,
        List.map_cons, List.cons_lt_cons_iff]
      by_cases before : ds.map CodePoint.value < cs.map CodePoint.value
      · simp [before]
        omega
      · simp [before]
        omega

theorem mem_sort {texts : List Text} {t : Text} : t ∈ sort texts ↔ t ∈ texts := List.mem_mergeSort

theorem sort_pairwise {texts : List Text} (nodup : texts.Nodup) :
    (sort texts).Pairwise fun s t => s.values < t.values := by
  have ordered : (sort texts).Pairwise fun s t => ordered s.points t.points = true := by
    apply List.pairwise_mergeSort
    · intro s t u first second
      rw [ordered_iff, not_lt] at first second ⊢
      exact first.trans second
    · intro s t
      rw [Bool.or_eq_true, ordered_iff, ordered_iff, not_lt, not_lt]
      exact le_total _ _
  have distinct : (sort texts).Nodup := (List.mergeSort_perm texts _).nodup_iff.mpr nodup
  refine ordered.imp₂ (fun s t before different => ?_) distinct
  rw [ordered_iff, not_lt] at before
  exact lt_of_le_of_ne before (values_injective.ne different)

end Text

end BitcoinReserve
