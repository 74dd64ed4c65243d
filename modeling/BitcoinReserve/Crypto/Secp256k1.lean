import BitcoinReserve.Bytes

/-!
# The curve secp256k1

Points of y² = x³ + 7 over the field of `fieldOrder` elements, multiples of the base point, and the
written forms of a point.
-/
namespace BitcoinReserve.Secp256k1

def fieldOrder : Nat := 0xfffffffffffffffffffffffffffffffffffffffffffffffffffffffefffffc2f

def groupOrder : Nat := 0xfffffffffffffffffffffffffffffffebaaedce6af48a03bbfd25e8cd0364141

/-- The lowest 256 binary digits, least significant first. -/
def bits (n : Nat) : List Bool := (List.range 256).map n.testBit

def power (modulus base exponent : Nat) : Nat :=
  (bits exponent).foldr
    (fun bit acc =>
      let square := acc * acc % modulus
      if bit then square * base % modulus else square) 1

/-- The inverse modulo a prime; that of 0 is 0. -/
def inverse (prime n : Nat) : Nat := power prime n (prime - 2)

structure Point where
  x : Nat
  y : Nat
  deriving DecidableEq, Repr

def Point.onCurve (p : Point) : Bool :=
  p.x < fieldOrder && p.y < fieldOrder &&
    p.y * p.y % fieldOrder = (p.x * p.x * p.x + 7) % fieldOrder

def base : Point :=
  ⟨0x79be667ef9dcbbac55a06295ce870b07029bfcdb2dce28d959f2815b16f81798,
    0x483ada7726a3c4655da4fbfc0e1108a8fd17b448a68554199c47d08ffb10d4b8⟩

/-- The point (x / z², y / z³), or the point at infinity when z is 0. -/
structure Projective where
  x : Nat
  y : Nat
  z : Nat
  deriving DecidableEq, Repr

namespace Projective

def infinity : Projective := ⟨1, 1, 0⟩

def ofPoint (p : Point) : Projective := ⟨p.x, p.y, 1⟩

def sub (a b : Nat) : Nat := (a + (fieldOrder - b % fieldOrder)) % fieldOrder

def mul (a b : Nat) : Nat := a * b % fieldOrder

def double (p : Projective) : Projective :=
  if p.z = 0 ∨ p.y = 0 then infinity
  else
    let yy := mul p.y p.y
    let s := 4 * mul p.x yy % fieldOrder
    let m := 3 * mul p.x p.x % fieldOrder
    let x := sub (mul m m) (2 * s)
    ⟨x, sub (mul m (sub s x)) (8 * mul yy yy), mul (2 * p.y) p.z⟩

def add (p q : Projective) : Projective :=
  if p.z = 0 then q
  else if q.z = 0 then p
  else
    let pz := mul p.z p.z
    let qz := mul q.z q.z
    let u1 := mul p.x qz
    let u2 := mul q.x pz
    let s1 := mul p.y (mul q.z qz)
    let s2 := mul q.y (mul p.z pz)
    if u1 = u2 then
      if s1 = s2 then double p else infinity
    else
      let h := sub u2 u1
      let r := sub s2 s1
      let hh := mul h h
      let hhh := mul h hh
      let v := mul u1 hh
      let x := sub (sub (mul r r) hhh) (2 * v)
      ⟨x, sub (mul r (sub v x)) (mul s1 hhh), mul h (mul p.z q.z)⟩

def multiple (n : Nat) (p : Projective) : Projective :=
  (bits n).foldr (fun bit acc => if bit then add (double acc) p else double acc) infinity

def toPoint? (p : Projective) : Option Point :=
  if p.z = 0 then none
  else
    let i := inverse fieldOrder p.z
    let ii := mul i i
    some ⟨mul p.x ii, mul p.y (mul i ii)⟩

end Projective

/-- The point with abscissa `x` whose ordinate has the given parity. -/
def lift? (x : Nat) (odd : Bool) : Option Point :=
  let square := (x * x * x + 7) % fieldOrder
  let root := power fieldOrder square ((fieldOrder + 1) / 4)
  let y := if (root % 2 = 1) = (odd = true) then root else fieldOrder - root
  let p : Point := ⟨x, y⟩
  if p.onCurve then some p else none

/-- Reads the compressed, uncompressed, hybrid and bare two-coordinate forms of a curve point. -/
def Point.decode? (bs : Bytes) : Option Point :=
  let pair (bs : Bytes) : Option Point :=
    let p : Point := ⟨Bytes.toNatBE (bs.take 32), Bytes.toNatBE (bs.drop 32)⟩
    if p.onCurve then some p else none
  match bs with
  | [] => none
  | tag :: rest =>
    if bs.length = 64 then pair bs
    else if bs.length = 33 then
      if tag = 2 ∨ tag = 3 then lift? (Bytes.toNatBE rest) (tag = 3) else none
    else if bs.length = 65 then
      match pair rest with
      | none => none
      | some p =>
        if tag = 4 ∨ (tag = 6 ∧ p.y % 2 = 0) ∨ (tag = 7 ∧ p.y % 2 = 1) then some p else none
    else none

/-- The compressed form: the parity of the ordinate, then the abscissa in 32 bytes. -/
def Point.encode (p : Point) : Bytes :=
  (if p.y % 2 = 1 then 3 else 2) :: Bytes.ofNatBE 32 p.x

end BitcoinReserve.Secp256k1
