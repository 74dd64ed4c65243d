import BitcoinReserve.Bytes
import Mathlib

/-!
# Numbers in bytes

The bytes of a number of fixed width are determined by the number, and the number by the bytes.
-/
namespace BitcoinReserve.Bytes

theorem ofIntLE?_eq_some_iff {width : Nat} {n : Int} {bs : Bytes} :
    ofIntLE? width n = some bs ↔ bs.length = width ∧ n = toNatLE bs := by
  constructor
  · intro written
    cases n with
    | negSucc => cases written
    | ofNat n =>
      simp only [ofIntLE?, Option.ite_none_right_eq_some, Option.some.injEq] at written
      obtain ⟨fits, rfl⟩ := written
      rw [length_ofNatLE, toNatLE_ofNatLE_of_lt fits]
      exact ⟨rfl, rfl⟩
  · rintro ⟨rfl, rfl⟩
    exact (if_pos (toNatLE_lt bs)).trans (congrArg some (ofNatLE_toNatLE bs))

theorem ofIntBE?_eq_some_iff {width : Nat} {n : Int} {bs : Bytes} :
    ofIntBE? width n = some bs ↔ bs.length = width ∧ n = toNatBE bs := by
  rw [ofIntBE?, Option.map_eq_some_iff]
  constructor
  · rintro ⟨low, written, rfl⟩
    obtain ⟨length, value⟩ := ofIntLE?_eq_some_iff.mp written
    rw [List.length_reverse, toNatBE, List.reverse_reverse]
    exact ⟨length, value⟩
  · rintro ⟨length, value⟩
    refine ⟨bs.reverse, ofIntLE?_eq_some_iff.mpr ⟨?_, value⟩, List.reverse_reverse bs⟩
    rw [List.length_reverse, length]

theorem toNatLE_append (as bs : Bytes) :
    toNatLE (as ++ bs) = toNatLE as + span as.length * toNatLE bs := by
  induction as with
  | nil => simp [toNatLE, span]
  | cons a as ih =>
    rw [List.cons_append, toNatLE, ih, toNatLE, List.length_cons, span_succ]
    ring

/-- A number that one byte less could hold begins with a zero. -/
theorem head?_eq_zero {width : Nat} {n : Int} {bs : Bytes}
    (written : ofIntBE? (width + 1) n = some bs) (small : n < span width) :
    bs.head? = some 0 := by
  obtain ⟨length, rfl⟩ := ofIntBE?_eq_some_iff.mp written
  cases bs with
  | nil => cases length
  | cons b bs =>
    have width_eq : bs.length = width := Nat.succ.inj length
    have value : toNatBE (b :: bs) = toNatLE bs.reverse + span width * b.toNat := by
      rw [toNatBE, List.reverse_cons, toNatLE_append, List.length_reverse, width_eq]
      rfl
    have zero : b.toNat = 0 := by
      by_contra positive
      have whole : span width * 1 ≤ span width * b.toNat :=
        Nat.mul_le_mul_left _ (Nat.one_le_iff_ne_zero.mpr positive)
      omega
    exact congrArg some (UInt8.toNat_inj.mp zero)

end BitcoinReserve.Bytes
