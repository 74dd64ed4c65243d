/-!
# Binary numbers of 64 bits

A finite number is a signed mantissa below 2 ^ 53 times a power of two. Decimals are read to the
nearest number, ties to the even mantissa, and written with the fewest digits that read back.
-/
namespace BitcoinReserve

inductive Binary64 where
  | finite (negative : Bool) (mantissa : Nat) (exponent : Int)
  | infinity (negative : Bool)
  | nan
  deriving DecidableEq, Repr

namespace Binary64

/-- A power of a positive base, split into a numerator and a denominator. -/
def ratioPow (base : Nat) (e : Int) : Nat × Nat :=
  (Nat.pow base e.toNat, Nat.pow base (-e).toNat)

/-- The quotient rounded to the nearest integer, a tie to the even one. -/
def roundDiv (num den : Nat) : Nat :=
  let q := num / den
  let r := num % den
  if 2 * r < den ∨ (2 * r = den ∧ q % 2 = 0) then q else q + 1

/-- Mantissas are below 2 ^ 53. -/
def bound : Nat := 0x20000000000000

/-- The number nearest to `num / den`. -/
def ofRatio (negative : Bool) (num den : Nat) : Binary64 :=
  if num = 0 ∨ den = 0 then .finite negative 0 (-1074)
  else
    let guess : Int := (Nat.log2 num : Int) - Nat.log2 den - 53
    let scaled (e : Int) := (num * (ratioPow 2 e).2, den * (ratioPow 2 e).1)
    let (n, d) := scaled guess
    let e := max (-1074) (if n / d < bound then guess else guess + 1)
    let (n, d) := scaled e
    let m := roundDiv n d
    let (m, e) := if m = bound then (bound / 2, e + 1) else (m, e)
    if e > 971 then .infinity negative else .finite negative m e

/-- The number nearest to `digits * 10 ^ exponent`, where `digits` is written in `count` places. -/
def ofDecimal (negative : Bool) (count digits : Nat) (exponent : Int) : Binary64 :=
  if digits = 0 ∨ exponent + count < -400 then .finite negative 0 (-1074)
  else if exponent > 400 then .infinity negative
  else
    let (n, d) := ratioPow 10 exponent
    ofRatio negative (digits * n) d

/-- The integer next to the number on the side of zero. -/
def truncate (negative : Bool) (mantissa : Nat) (exponent : Int) : Int :=
  let (n, d) := ratioPow 2 exponent
  let magnitude : Int := (mantissa * n / d : Nat)
  if negative then -magnitude else magnitude

def isZero : Binary64 → Bool
  | finite _ 0 _ => true
  | _ => false

/-- Of the two multiples of `10 ^ unit` around `m * 2 ^ e`, the nearer one that reads back; of two
that are as near, the even one. -/
def readsBack? (m : Nat) (e : Int) (unit : Int) : Option Nat :=
  let (n2, d2) := ratioPow 2 e
  let (n10, d10) := ratioPow 10 unit
  let num := m * n2 * d10
  let den := d2 * n10
  let low := num / den
  let near := if roundDiv num den = low then [low, low + 1] else [low + 1, low]
  near.find? fun c => ofRatio false (c * n10) d10 = .finite false m e

/-- Decimal digits and the power of ten of the last one, as few digits as read back. -/
def shortest (m : Nat) (e : Int) : Nat × Int :=
  let top : Int := ((Nat.log2 m : Int) + e) * 30103 / 100000
  let units := (List.range 20).map fun (i : Nat) => top + 1 - (i : Int)
  match units.findSome? fun unit => (readsBack? m e unit).bind fun c =>
      if c = 0 then none else some (c, unit) with
  | some found => found
  | none => (m, 0)

/-- Drops zeros at the end of the digits. -/
def stripZeros : Nat → Nat → Int → Nat × Int
  | 0, c, e => (c, e)
  | fuel + 1, c, e => if c ≠ 0 ∧ c % 10 = 0 then stripZeros fuel (c / 10) (e + 1) else (c, e)

/-- Positional from 1e-4 up to below 1e16 with at least one place after the point, else with an
exponent of at least two digits. -/
def magnitudeText (m : Nat) (e : Int) : String :=
  if m = 0 then "0.0"
  else
    let (c, unit) := shortest m e
    let (c, unit) := stripZeros 20 c unit
    let ds := (Nat.toDigits 10 c)
    let lead : Int := unit + ds.length - 1
    if -4 ≤ lead ∧ lead < 16 then
      if 0 ≤ unit then String.ofList (ds ++ List.replicate unit.toNat '0') ++ ".0"
      else if 0 ≤ lead then
        String.ofList (ds.take (lead.toNat + 1)) ++ "." ++ String.ofList (ds.drop (lead.toNat + 1))
      else "0." ++ String.ofList (List.replicate (-lead - 1).toNat '0' ++ ds)
    else
      let exponent := Nat.toDigits 10 lead.natAbs
      let exponent := if exponent.length < 2 then '0' :: exponent else exponent
      let fraction := if ds.length = 1 then "" else "." ++ String.ofList (ds.drop 1)
      String.ofList (ds.take 1) ++ fraction ++
        "e" ++ (if lead < 0 then "-" else "+") ++ String.ofList exponent

end Binary64

end BitcoinReserve
