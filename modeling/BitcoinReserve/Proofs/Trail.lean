import Mathlib.Data.List.Induction

/-!
# Trails

Labelled steps one after another, with the labels that they leave.
-/
namespace BitcoinReserve

inductive Trail {σ ι : Type} (step : σ → ι → σ → Prop) : σ → List ι → σ → Prop
  | nil (s : σ) : Trail step s [] s
  | cons {s t u : σ} {i : ι} {rest : List ι} (first : step s i t) (later : Trail step t rest u) :
      Trail step s (i :: rest) u

namespace Trail

variable {σ ι : Type} {step : σ → ι → σ → Prop} {s t u : σ} {i : ι} {is js : List ι}

theorem single (only : step s i t) : Trail step s [i] t := .cons only (.nil t)

theorem append (earlier : Trail step s is t) (later : Trail step t js u) :
    Trail step s (is ++ js) u := by
  induction earlier with
  | nil => exact later
  | cons first _ ih => exact .cons first (ih later)

/-- The same steps, seen by less of the states and of the labels. -/
theorem map {τ κ : Type} {seen : τ → κ → τ → Prop} (f : σ → τ) (g : ι → κ)
    (sees : ∀ s i t, step s i t → seen (f s) (g i) (f t)) (trail : Trail step s is u) :
    Trail seen (f s) (is.map g) (f u) := by
  induction trail with
  | nil s => exact .nil (f s)
  | cons first _ ih => exact .cons (sees _ _ _ first) ih

theorem exists_of_append (trail : Trail step s (is ++ js) u) :
    ∃ t, Trail step s is t ∧ Trail step t js u := by
  induction is generalizing s with
  | nil => exact ⟨s, .nil s, trail⟩
  | cons i rest ih =>
    cases trail with
    | cons first later =>
      obtain ⟨t, earlier, later⟩ := ih later
      exact ⟨t, .cons first earlier, later⟩

/-- A trail stays where it starts or has a last step. -/
theorem eq_or_last (trail : Trail step s is u) :
    (is = [] ∧ s = u) ∨ ∃ before i t, is = before ++ [i] ∧ step t i u := by
  induction is using List.reverseRecOn with
  | nil =>
    cases trail with
    | nil => exact .inl ⟨rfl, rfl⟩
  | append_singleton before i ih =>
    obtain ⟨t, -, later⟩ := trail.exists_of_append
    cases later with
    | cons last rest =>
      cases rest with
      | nil => exact .inr ⟨before, i, t, rfl, last⟩

/-- What holds at the start and is kept by every step holds at the end, where it may speak of all
labels so far. -/
theorem induction_last {P : List ι → σ → Prop} (trail : Trail step s is u) (start : P [] s)
    (keeps : ∀ is t i u, P is t → step t i u → P (is ++ [i]) u) : P is u := by
  induction is using List.reverseRecOn generalizing u with
  | nil =>
    cases trail with
    | nil => exact start
  | append_singleton before i ih =>
    obtain ⟨t, earlier, later⟩ := trail.exists_of_append
    cases later with
    | cons last rest =>
      cases rest with
      | nil => exact keeps _ _ _ _ (ih earlier) last

end Trail

end BitcoinReserve
