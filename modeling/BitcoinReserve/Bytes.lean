/-!
# Byte strings

Fixed-width integers in both byte orders, and splitting into equal pieces.
-/
namespace BitcoinReserve

abbrev Bytes := List UInt8

namespace Bytes

/-- The low `width` bytes of `n`, least significant first. -/
def ofNatLE : Nat → Nat → Bytes
  | 0, _ => []
  | width + 1, n => UInt8.ofNat n :: ofNatLE width (n / 256)

/-- The number whose base-256 digits are the bytes, least significant first. -/
def toNatLE : Bytes → Nat
  | [] => 0
  | b :: bs => b.toNat + 256 * toNatLE bs

def ofNatBE (width n : Nat) : Bytes := (ofNatLE width n).reverse

def toNatBE (bs : Bytes) : Nat := toNatLE bs.reverse

/-- How many numbers can be written in `width` bytes. -/
def span (width : Nat) : Nat := Nat.pow 256 width

/-- The integer in exactly `width` bytes, least significant first, when it fits. -/
def ofIntLE? (width : Nat) : Int → Option Bytes
  | .ofNat n => if n < span width then some (ofNatLE width n) else none
  | .negSucc _ => none

/-- The integer in exactly `width` bytes, most significant first, when it fits. -/
def ofIntBE? (width : Nat) (n : Int) : Option Bytes := (ofIntLE? width n).map List.reverse

def zeros (n : Nat) : Bytes := List.replicate n 0

/-- Whether there are at least `n` bytes; no more of them than `n` are looked at. -/
def holds : Nat → Bytes → Bool
  | 0, _ => true
  | _ + 1, [] => false
  | n + 1, _ :: bs => holds n bs

/-- The place of a signed position, which counts from the end when it is below zero. -/
def place (bs : Bytes) (position : Int) : Nat :=
  if position < 0 then (position + bs.length).toNat else position.toNat

/-- The bytes from one signed position up to another. -/
def between (bs : Bytes) (start stop : Int) : Bytes :=
  (bs.take (place bs stop)).drop (place bs start)

@[simp] theorem length_ofNatLE (width n : Nat) : (ofNatLE width n).length = width := by
  induction width generalizing n with
  | zero => rfl
  | succ width ih => simp [ofNatLE, ih]

@[simp] theorem length_ofNatBE (width n : Nat) : (ofNatBE width n).length = width := by
  simp [ofNatBE]

@[simp] theorem length_zeros (n : Nat) : (zeros n).length = n := by simp [zeros]

@[simp] theorem holds_eq (n : Nat) (bs : Bytes) : holds n bs = decide (n ≤ bs.length) := by
  induction n generalizing bs with
  | zero => simp [holds]
  | succ n ih =>
    cases bs with
    | nil => simp [holds]
    | cons b bs => simp [holds, ih]

theorem span_succ (width : Nat) : span (width + 1) = 256 * span width := by
  rw [Nat.mul_comm]; rfl

theorem toNatLE_lt (bs : Bytes) : toNatLE bs < span bs.length := by
  induction bs with
  | nil => simp [toNatLE, span]
  | cons b bs ih =>
    have hb : b.toNat < 256 := b.toNat_lt
    simp only [toNatLE, List.length_cons, span_succ]
    omega

theorem toNatLE_ofNatLE (width n : Nat) : toNatLE (ofNatLE width n) = n % span width := by
  induction width generalizing n with
  | zero => simp [ofNatLE, toNatLE, span, Nat.mod_one]
  | succ width ih =>
    rw [span_succ, Nat.mod_mul]
    simp only [ofNatLE, toNatLE, ih, UInt8.toNat_ofNat']

theorem toNatLE_ofNatLE_of_lt {width n : Nat} (h : n < span width) :
    toNatLE (ofNatLE width n) = n := by
  rw [toNatLE_ofNatLE, Nat.mod_eq_of_lt h]

theorem ofNatLE_toNatLE (bs : Bytes) : ofNatLE bs.length (toNatLE bs) = bs := by
  induction bs with
  | nil => rfl
  | cons b bs ih =>
    have hb : b.toNat < 256 := b.toNat_lt
    have hdiv : (b.toNat + 256 * toNatLE bs) / 256 = toNatLE bs := by omega
    have hmod : UInt8.ofNat (b.toNat + 256 * toNatLE bs) = b := by
      apply UInt8.toNat_inj.mp
      rw [UInt8.toNat_ofNat']
      omega
    simp only [List.length_cons, ofNatLE, toNatLE, hdiv, hmod, ih]

end Bytes

/-- Consecutive pieces of length `n`; the last one may be shorter. -/
def pieces {α : Type} (n : Nat) (xs : List α) : List (List α) :=
  go xs.length xs
where
  go : Nat → List α → List (List α)
    | 0, _ => []
    | fuel + 1, xs => if xs.isEmpty then [] else xs.take n :: go fuel (xs.drop n)

end BitcoinReserve
