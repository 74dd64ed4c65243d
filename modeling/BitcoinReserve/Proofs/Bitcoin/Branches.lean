import BitcoinReserve.Bitcoin.Merkle
import BitcoinReserve.Proofs.Pieces

/-!
# Merkle branches

What a branch proves: a way from a leaf up to the root along siblings of 32 bytes.
-/
namespace BitcoinReserve.Merkle

/-- The siblings lead from a node up to the root. A node in an even place stands before its sibling,
one in an odd place after it, and the root is in place zero. -/
inductive Leads : Bytes → Nat → List Bytes → Bytes → Prop
  | root (node : Bytes) : Leads node 0 [] node
  | left {node sibling root : Bytes} {position : Nat} {siblings : List Bytes}
      (above : Leads (hash256 (node ++ sibling)) position siblings root) :
      Leads node (2 * position) (sibling :: siblings) root
  | right {node sibling root : Bytes} {position : Nat} {siblings : List Bytes}
      (above : Leads (hash256 (sibling ++ node)) position siblings root) :
      Leads node (2 * position + 1) (sibling :: siblings) root

theorem climb_left (node sibling : Bytes) (position : Nat) (siblings : List Bytes) :
    climb node (2 * position) (sibling :: siblings) =
      climb (hash256 (node ++ sibling)) position siblings := by
  have even : ¬ 2 * position % 2 = 1 := by omega
  have half : 2 * position / 2 = position := by omega
  rw [climb, if_neg even, half]

theorem climb_right (node sibling : Bytes) (position : Nat) (siblings : List Bytes) :
    climb node (2 * position + 1) (sibling :: siblings) =
      climb (hash256 (sibling ++ node)) position siblings := by
  have odd : (2 * position + 1) % 2 = 1 := by omega
  have half : (2 * position + 1) / 2 = position := by omega
  rw [climb, if_pos odd, half]

theorem leads_iff {node root : Bytes} {position : Nat} {siblings : List Bytes} :
    Leads node position siblings root ↔ climb node position siblings = (root, 0) := by
  constructor
  · intro leads
    induction leads with
    | root node => rfl
    | left above ih => rw [climb_left, ih]
    | right above ih => rw [climb_right, ih]
  · intro h
    induction siblings generalizing node position with
    | nil =>
      cases h
      exact .root _
    | cons sibling siblings ih =>
      obtain ⟨half, rfl | rfl⟩ : ∃ half, position = 2 * half ∨ position = 2 * half + 1 :=
        ⟨position / 2, by omega⟩
      · rw [climb_left] at h
        exact .left (ih h)
      · rw [climb_right] at h
        exact .right (ih h)

/-- A branch is siblings of 32 bytes that lead from the leaf at the index to the root. -/
theorem proves_iff {leaf root branch : Bytes} {index : Int} :
    proves leaf root branch index = true ↔ ∃ (position : Nat) (siblings : List Bytes),
      index = position ∧ branch = siblings.flatten ∧ (∀ s ∈ siblings, s.length = 32) ∧
        Leads leaf position siblings root := by
  constructor
  · intro h
    cases index with
    | negSucc n => cases h
    | ofNat position =>
      simp only [proves, Bool.and_eq_true, decide_eq_true_eq] at h
      obtain ⟨whole, led⟩ := h
      obtain ⟨siblings, rfl, lengths⟩ := exists_pieces whole
      rw [pieces_flatten (by omega) lengths] at led
      exact ⟨position, siblings, rfl, rfl, lengths, leads_iff.mpr led⟩
  · rintro ⟨position, siblings, rfl, rfl, lengths, leads⟩
    have whole : siblings.flatten.length % 32 = 0 := by
      rw [length_flatten_of_pieces lengths, Nat.mul_mod_right]
    have led := leads_iff.mp leads
    simp only [proves, whole, pieces_flatten (by omega) lengths, led, decide_true, Bool.and_self]

end BitcoinReserve.Merkle
