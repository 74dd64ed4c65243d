import BitcoinReserve.Bytes
import Mathlib.Data.List.Basic

/-!
# Equal pieces

A list whose length is a multiple of the width is cut into pieces of that width, and only these
pieces of that width make up the list.
-/
namespace BitcoinReserve

variable {α : Type} {n : Nat}

/-- More fuel than there are elements changes nothing. -/
theorem pieces_go_eq {fuel fuel' : Nat} {xs : List α} (positive : 0 < n)
    (enough : xs.length ≤ fuel) (enough' : xs.length ≤ fuel') :
    pieces.go n fuel xs = pieces.go n fuel' xs := by
  induction fuel generalizing fuel' xs with
  | zero =>
    obtain rfl : xs = [] := List.length_eq_zero_iff.mp (Nat.le_zero.mp enough)
    cases fuel' with
    | zero => rfl
    | succ fuel' => rfl
  | succ fuel ih =>
    cases xs with
    | nil =>
      cases fuel' with
      | zero => rfl
      | succ fuel' => rfl
    | cons x xs =>
      cases fuel' with
      | zero => simp at enough'
      | succ fuel' =>
        have shorter : ((x :: xs).drop n).length ≤ xs.length := by
          rw [List.length_drop, List.length_cons]
          omega
        simp only [List.length_cons] at enough enough'
        have rest : pieces.go n fuel ((x :: xs).drop n) = pieces.go n fuel' ((x :: xs).drop n) :=
          ih (by omega) (by omega)
        simp only [pieces.go, rest]

theorem pieces_eq_cons {xs : List α} (positive : 0 < n) (nonempty : xs ≠ []) :
    pieces n xs = xs.take n :: pieces n (xs.drop n) := by
  cases xs with
  | nil => exact absurd rfl nonempty
  | cons x xs =>
    have enough : ((x :: xs).drop n).length ≤ xs.length := by
      rw [List.length_drop, List.length_cons]
      omega
    have same := pieces_go_eq positive enough (Nat.le_refl ((x :: xs).drop n).length)
    simp only [pieces, List.length_cons, pieces.go, List.isEmpty_cons, Bool.false_eq_true, if_false,
      same]

theorem pieces_append {piece xs : List α} (positive : 0 < n) (length : piece.length = n) :
    pieces n (piece ++ xs) = piece :: pieces n xs := by
  have nonempty : piece ++ xs ≠ [] := by
    intro empty
    have := congrArg List.length empty
    simp only [List.length_append, List.length_nil] at this
    omega
  rw [pieces_eq_cons positive nonempty, List.take_left' length, List.drop_left' length]

/-- Pieces put together are found again. -/
theorem pieces_flatten {ps : List (List α)} (positive : 0 < n) (lengths : ∀ p ∈ ps, p.length = n) :
    pieces n ps.flatten = ps := by
  induction ps with
  | nil => rfl
  | cons p ps ih =>
    have length := lengths p List.mem_cons_self
    have others : ∀ q ∈ ps, q.length = n := fun q mem => lengths q (List.mem_cons_of_mem p mem)
    rw [List.flatten_cons, pieces_append positive length, ih others]

theorem length_flatten_of_pieces {ps : List (List α)} (lengths : ∀ p ∈ ps, p.length = n) :
    ps.flatten.length = n * ps.length := by
  induction ps with
  | nil => rfl
  | cons p ps ih =>
    have length := lengths p List.mem_cons_self
    have others : ∀ q ∈ ps, q.length = n := fun q mem => lengths q (List.mem_cons_of_mem p mem)
    rw [List.flatten_cons, List.length_append, length, ih others, List.length_cons, Nat.mul_succ,
      Nat.add_comm]

/-- A list of a length that the width divides is its pieces, all of that width. -/
theorem exists_pieces {xs : List α} (whole : xs.length % n = 0) :
    ∃ ps : List (List α), xs = ps.flatten ∧ ∀ p ∈ ps, p.length = n := by
  obtain ⟨count, length⟩ := Nat.dvd_of_mod_eq_zero whole
  induction count generalizing xs with
  | zero =>
    have empty : xs = [] := List.length_eq_zero_iff.mp length
    exact ⟨[], empty, fun p mem => nomatch mem⟩
  | succ count ih =>
    rw [Nat.mul_succ] at length
    have rest : (xs.drop n).length = n * count := by
      rw [List.length_drop]
      omega
    have divided : (xs.drop n).length % n = 0 := by rw [rest, Nat.mul_mod_right]
    obtain ⟨ps, flat, lengths⟩ := ih divided rest
    refine ⟨xs.take n :: ps, ?_, ?_⟩
    · rw [List.flatten_cons, ← flat, List.take_append_drop]
    · intro p mem
      rcases List.mem_cons.mp mem with rfl | mem
      · rw [List.length_take]
        omega
      · exact lengths p mem

/-- The last of equally long pieces is what is left of the list in front of its end. -/
theorem drop_of_getLast? {ps : List (List α)} {last : List α}
    (ends : ps.getLast? = some last) (lengths : ∀ p ∈ ps, p.length = n) :
    ps.flatten.drop (ps.flatten.length - n) = last := by
  obtain ⟨front, rfl⟩ := List.getLast?_eq_some_iff.mp ends
  have length : last.length = n :=
    lengths last (List.mem_append_right _ (List.mem_singleton_self _))
  rw [List.flatten_append, List.flatten_singleton, List.length_append, length, Nat.add_sub_cancel,
    List.drop_left]

end BitcoinReserve
