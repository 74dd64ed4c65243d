import BitcoinReserve.Text.Hex
import Mathlib

/-!
# Spellings of byte strings

A byte string is written in one way and read from many: each digit may stand in either case, and
blanks may stand around the pairs. A text that is read is the written one again once its blanks are
gone and its letters are small.
-/
namespace BitcoinReserve.Hex

/-- The digits that are written for some bytes, each in either case, with blanks before, between and
after the pairs. -/
inductive Spells : Bytes → List Char → Prop
  | nil : Spells [] []
  | blank {c : Char} {bs : Bytes} {cs : List Char} (blank : isBlank c = true) (rest : Spells bs cs) :
      Spells bs (c :: cs)
  | pair {b : UInt8} {c d : Char} {bs : Bytes} {cs : List Char}
      (high : c.toLower = digit (b.toNat / 16)) (low : d.toLower = digit (b.toNat % 16))
      (rest : Spells bs cs) : Spells (b :: bs) (c :: d :: cs)

/-- The characters without blanks, in lower case. -/
def plain (cs : List Char) : List Char := (cs.filter (!isBlank ·)).map Char.toLower

variable {c d : Char} {n high low : Nat} {bs : Bytes} {cs : List Char}

/-- What holds of the characters of ASCII, one by one, and of those beyond, holds of all. -/
theorem ascii_or_large {P : Char → Prop} (ascii : ∀ k < 128, P (Char.ofNat k))
    (large : ∀ c : Char, 128 ≤ c.toNat → P c) (c : Char) : P c := by
  by_cases h : c.toNat < 128
  · have value := ascii c.toNat h
    rwa [Char.ofNat_toNat] at value
  · exact large c (by omega)

theorem digit?_of_large (large : 128 ≤ c.toNat) : digit? c = none := by
  have upto {m : Char} (small : m.toNat < 128) : ¬ c ≤ m := by
    intro below
    have values : c.toNat ≤ m.toNat := below
    omega
  have nine : ¬ c ≤ '9' := upto (by decide)
  have f : ¬ c ≤ 'f' := upto (by decide)
  have F : ¬ c ≤ 'F' := upto (by decide)
  simp [digit?, nine, f, F]

theorem toLower_of_large (large : 128 ≤ c.toNat) : c.toLower = c := by
  have notUpper : ¬ c.isUpper = true := by
    intro upper
    simp only [Char.isUpper, decide_eq_true_eq] at upper
    have below : c.toNat ≤ 90 := upper.2
    omega
  exact Char.toLower_eq_of_not_isUpper notUpper

theorem digit_toNat_lt (small : n < 16) : (digit n).toNat < 128 := by
  have all : ∀ n < 16, (digit n).toNat < 128 := by decide
  exact all n small

/-- A digit is read in either case. -/
theorem digit?_eq_some_iff (small : n < 16) : digit? c = some n ↔ c.toLower = digit n := by
  have ascii : ∀ k < 128, ∀ n < 16,
      digit? (Char.ofNat k) = some n ↔ (Char.ofNat k).toLower = digit n := by decide +kernel
  refine ascii_or_large (P := fun c => digit? c = some n ↔ c.toLower = digit n)
    (fun k h => ascii k h n small) (fun c large => ?_) c
  have other : c ≠ digit n := by
    rintro rfl
    have value := digit_toNat_lt small
    omega
  simp [digit?_of_large large, toLower_of_large large, other]

theorem lt_of_digit? (read : digit? c = some n) : n < 16 := by
  have ascii : ∀ k < 128, ∀ n ∈ digit? (Char.ofNat k), n < 16 := by decide +kernel
  refine ascii_or_large (P := fun c => ∀ n ∈ digit? c, n < 16) ascii (fun c large => ?_) c n read
  simp [digit?_of_large large]

/-- A digit, in either case, is not a blank. -/
theorem isBlank_of_toLower (small : n < 16) (same : c.toLower = digit n) : isBlank c = false := by
  have all : ∀ n < 16, isBlank (digit n) = false := by decide
  have blanks : isBlank c = true → c.toLower = c := by
    intro blank
    simp only [isBlank, Bool.or_eq_true, decide_eq_true_eq] at blank
    rcases blank with ((((rfl | rfl) | rfl) | rfl) | rfl) | rfl <;> rfl
  by_contra blank
  rw [Bool.not_eq_false] at blank
  rw [blanks blank] at same
  rw [same, all n small] at blank
  cases blank

theorem toLower_digit (small : n < 16) : (digit n).toLower = digit n := by
  have all : ∀ n < 16, (digit n).toLower = digit n := by decide
  exact all n small

theorem high_lt (b : UInt8) : b.toNat / 16 < 16 := by
  have bound : b.toNat < 256 := b.toNat_lt
  omega

theorem low_lt (b : UInt8) : b.toNat % 16 < 16 := Nat.mod_lt _ (by decide)

theorem decodeChars_of_isBlank (blank : isBlank c = true) :
    decodeChars (c :: cs) = decodeChars cs := by
  cases cs with
  | nil => simp [decodeChars, blank]
  | cons d cs => simp [decodeChars, blank]

theorem decodeChars_pair (plain : isBlank c = false) (hc : digit? c = some high)
    (hd : digit? d = some low) :
    decodeChars (c :: d :: cs) = (decodeChars cs).map (UInt8.ofNat (16 * high + low) :: ·) := by
  simp [decodeChars, plain, hc, hd]

theorem Spells.decodeChars (spells : Spells bs cs) : decodeChars cs = some bs := by
  induction spells with
  | nil => rfl
  | blank blank _ ih => rw [decodeChars_of_isBlank blank, ih]
  | @pair b c d bs cs high low _ ih =>
    have first : digit? c = some (b.toNat / 16) := (digit?_eq_some_iff (high_lt b)).mpr high
    have second : digit? d = some (b.toNat % 16) := (digit?_eq_some_iff (low_lt b)).mpr low
    have value : 16 * (b.toNat / 16) + b.toNat % 16 = b.toNat := by omega
    rw [decodeChars_pair (isBlank_of_toLower (high_lt b) high) first second, ih, value,
      UInt8.ofNat_toNat]
    rfl

/-- Bytes are read from their spellings and from nothing else. -/
theorem decodeChars_eq_some_iff : Hex.decodeChars cs = some bs ↔ Spells bs cs := by
  refine ⟨fun read => ?_, Spells.decodeChars⟩
  induction cs using decodeChars.induct generalizing bs with
  | case1 =>
    cases read
    exact .nil
  | case2 c blank =>
    rw [decodeChars_of_isBlank blank] at read
    cases read
    exact .blank blank .nil
  | case3 c solid =>
    simp [Hex.decodeChars, solid] at read
  | case4 c d rest blank ih =>
    rw [decodeChars_of_isBlank blank] at read
    exact .blank blank (ih read)
  | case5 c d rest solid high low second first ih =>
    have notBlank : isBlank c = false := Bool.eq_false_iff.mpr solid
    rw [decodeChars_pair notBlank first second] at read
    obtain ⟨tail, others, rfl⟩ := Option.map_eq_some_iff.mp read
    have hHigh : high < 16 := lt_of_digit? first
    have hLow : low < 16 := lt_of_digit? second
    have byte : 16 * high + low < UInt8.size := by
      simp only [UInt8.size]
      omega
    have value : (UInt8.ofNat (16 * high + low)).toNat = 16 * high + low :=
      UInt8.toNat_ofNat_of_lt' byte
    have upper : (16 * high + low) / 16 = high := by omega
    have lower : (16 * high + low) % 16 = low := by omega
    refine .pair ?_ ?_ (ih others)
    · rw [value, upper]
      exact (digit?_eq_some_iff hHigh).mp first
    · rw [value, lower]
      exact (digit?_eq_some_iff hLow).mp second
  | case6 c d rest solid unread =>
    unfold Hex.decodeChars at read
    rw [if_neg solid] at read
    split at read
    · rename_i high low first second
      exact absurd second (unread high low first)
    · cases read

theorem spells_encodeChars (bs : Bytes) : Spells bs (encodeChars bs) := by
  induction bs with
  | nil => exact .nil
  | cons b bs ih => exact .pair (toLower_digit (high_lt b)) (toLower_digit (low_lt b)) ih

/-- Without blanks and in lower case every spelling is what is written. -/
theorem Spells.plain_eq (spells : Spells bs cs) : plain cs = encodeChars bs := by
  induction spells with
  | nil => rfl
  | blank blank _ ih =>
    simp only [plain, List.filter_cons, blank] at ih ⊢
    exact ih
  | @pair b c d bs cs high low _ ih =>
    have first : isBlank c = false := isBlank_of_toLower (high_lt b) high
    have second : isBlank d = false := isBlank_of_toLower (low_lt b) low
    have written : encodeChars (b :: bs) = c.toLower :: d.toLower :: plain cs := by
      rw [ih, high, low]
      rfl
    rw [written]
    simp [plain, first, second]

end BitcoinReserve.Hex
