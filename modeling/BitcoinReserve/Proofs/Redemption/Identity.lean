import BitcoinReserve.Proofs.Text.Utf8
import BitcoinReserve.Redemption
import Std.Data.String.ToInt

/-!
# The identity of redemptions

An id is a hash of the bytes of a seed. A seed tells the number of its redemption, so that two
redemptions of one id would be a collision; it has no bytes where the names of the reserve and of the
user have none.
-/
namespace BitcoinReserve

/-- What follows the last separator is determined, and so is what precedes it. -/
theorem eq_and_eq_of_append_cons {α : Type} {c : α} {as bs xs ys : List α} (hx : c ∉ xs)
    (hy : c ∉ ys) (h : as ++ c :: xs = bs ++ c :: ys) : as = bs ∧ xs = ys := by
  induction as generalizing bs with
  | nil =>
    cases bs with
    | nil => exact ⟨rfl, (List.cons.inj h).2⟩
    | cons b bs =>
      have tail : xs = bs ++ c :: ys := (List.cons.inj h).2
      exact absurd (tail ▸ List.mem_append_right bs List.mem_cons_self) hx
  | cons a as ih =>
    cases bs with
    | nil =>
      have tail : as ++ c :: xs = ys := (List.cons.inj h).2
      exact absurd (tail ▸ List.mem_append_right as List.mem_cons_self) hy
    | cons b bs =>
      obtain ⟨rfl, tail⟩ := List.cons.inj h
      obtain ⟨rfl, same⟩ := ih tail
      exact ⟨rfl, same⟩

namespace Hex

theorem digit_inj {m n : Nat} (hm : m < 16) (hn : n < 16) (h : digit m = digit n) : m = n := by
  have all : ∀ m < 16, ∀ n < 16, digit m = digit n → m = n := by decide
  exact all m hm n hn h

theorem encodeChars_inj {bs cs : Bytes} (h : encodeChars bs = encodeChars cs) : bs = cs := by
  induction bs generalizing cs with
  | nil =>
    cases cs with
    | nil => rfl
    | cons c cs => cases h
  | cons b bs ih =>
    cases cs with
    | nil => cases h
    | cons c cs =>
      have hb : b.toNat < 256 := b.toNat_lt
      have hc : c.toNat < 256 := c.toNat_lt
      obtain ⟨high, rest⟩ := List.cons.inj h
      obtain ⟨low, rest⟩ := List.cons.inj rest
      have high := digit_inj (by omega) (by omega) high
      have low := digit_inj (by omega) (by omega) low
      have same : b = c := UInt8.toNat_inj.mp (by omega)
      rw [same, ih rest]

theorem encode_inj {bs cs : Bytes} (h : encode bs = encode cs) : bs = cs := by
  have points := congrArg Text.chars? h
  simp only [encode, Text.chars?_ofChars, Option.some.injEq] at points
  exact encodeChars_inj points

end Hex

namespace Redemption

theorem points_seed (reserve user : Text) (number : Nat) (now : Int) :
    (seed reserve user number now).points =
      ((reserve ++ "_" ++ user : Text).points ++
        .char '_' :: (Nat.toDigits 10 number).map .char) ++
          .char '_' :: now.repr.toList.map .char := by
  have separator : (toString "_").toList = ['_'] := rfl
  simp [seed, Text.ofString, separator]

/-- A time has no underscore in it. -/
theorem underscore_not_mem_repr (n : Int) : '_' ∉ n.repr.toList := by
  rw [Int.repr_eq_if]
  split
  · rw [Nat.toList_repr]
    exact Nat.underscore_not_in_toDigits
  · rw [String.toList_append, Nat.toList_repr, List.mem_append]
    rintro (dash | digit)
    · simp at dash
    · exact Nat.underscore_not_in_toDigits digit

/-- The number and the time of a seed are what follows its last two separators, so a seed tells them
both, and of the names before them it tells how they read together. -/
theorem seed_eq_iff {reserve reserve' user user' : Text} {number number' : Nat} {now now' : Int} :
    seed reserve user number now = seed reserve' user' number' now' ↔
      reserve ++ "_" ++ user = reserve' ++ "_" ++ user' ∧ number = number' ∧ now = now' := by
  have absent {cs : List Char} (h : '_' ∉ cs) : CodePoint.char '_' ∉ cs.map CodePoint.char := by
    simpa using h
  have chars {cs ds : List Char} (h : cs.map CodePoint.char = ds.map CodePoint.char) : cs = ds :=
    Text.ofChars_injective (congrArg Text.mk h)
  constructor
  · intro h
    have points := congrArg Text.points h
    rw [points_seed, points_seed] at points
    obtain ⟨front, times⟩ := eq_and_eq_of_append_cons (absent (underscore_not_mem_repr now))
      (absent (underscore_not_mem_repr now')) points
    obtain ⟨names, digits⟩ := eq_and_eq_of_append_cons (absent Nat.underscore_not_in_toDigits)
      (absent Nat.underscore_not_in_toDigits) front
    have numbers : number.repr.toList = number'.repr.toList := by
      rw [Nat.toList_repr, Nat.toList_repr, chars digits]
    exact ⟨congrArg Text.mk names, Nat.repr_injective (String.toList_inj.mp numbers),
      Int.repr_injective (String.toList_inj.mp (chars times))⟩
  · rintro ⟨names, rfl, rfl⟩
    rw [seed, seed, names]

example : seed "a_1" "b" 2 (-3) = seed "a" "1_b" 2 (-3) := by decide

theorem number_of_seed {reserve reserve' user user' : Text} {number number' : Nat} {now now' : Int}
    (h : seed reserve user number now = seed reserve' user' number' now') : number = number' :=
  (seed_eq_iff.mp h).2.1

theorem idOf?_seed_eq_none_iff {reserve user : Text} {number : Nat} {now : Int} :
    idOf? (seed reserve user number now) = none ↔
      Text.utf8? reserve = none ∨ Text.utf8? user = none := by
  rw [idOf?, Option.map_eq_none_iff, seed, Text.utf8?_append_eq_none_iff,
    Text.utf8?_append_eq_none_iff, Text.utf8?_append_eq_none_iff]
  simp only [Text.utf8?_ofString_ne_none, or_false]

end Redemption

end BitcoinReserve
