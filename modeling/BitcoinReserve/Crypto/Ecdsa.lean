import BitcoinReserve.Crypto.Der
import BitcoinReserve.Crypto.Hmac
import BitcoinReserve.Crypto.Secp256k1
import BitcoinReserve.Text.Hex

/-!
# Signatures over secp256k1

Signing draws its nonce from the key and the digest by RFC 6979, so equal inputs give equal
signatures. A digest shorter than 32 bytes is taken as the number it spells.
-/
namespace BitcoinReserve.Ecdsa

open Secp256k1

structure PrivateKey where
  secret : Nat
  secret_pos : 0 < secret
  secret_lt : secret < groupOrder

/-- Reads 32 bytes that spell a number between 1 and the group order less 1. -/
def PrivateKey.decode? (bs : Bytes) : Option PrivateKey :=
  let n := Bytes.toNatBE bs
  if h : bs.length = 32 ∧ 0 < n ∧ n < groupOrder then some ⟨n, h.2.1, h.2.2⟩ else none

def PrivateKey.publicKey? (key : PrivateKey) : Option Point :=
  (Projective.multiple key.secret (.ofPoint base)).toPoint?

structure Signature where
  r : Nat
  s : Nat
  deriving DecidableEq, Repr

inductive Fault where
  | emptyDigest
  | digestTooLong
  | noNonce
  /-- The two multiples that a verification adds cancel out. -/
  | pointAtInfinity
  deriving DecidableEq, Repr

namespace Nonce

structure State where
  key : Bytes
  value : Bytes

def State.refresh (s : State) (extra : Bytes) : State :=
  let key := Hmac.sha256 s.key (s.value ++ extra)
  ⟨key, Hmac.sha256 key s.value⟩

def start (secret digest : Nat) : State :=
  let reduced := if digest < groupOrder then digest else digest - groupOrder
  let seed := Bytes.ofNatBE 32 secret ++ Bytes.ofNatBE 32 reduced
  let s : State := ⟨Bytes.zeros 32, List.replicate 32 1⟩
  (s.refresh (0 :: seed)).refresh (1 :: seed)

/-- The next `count` candidates. -/
def candidates : Nat → State → List Nat
  | 0, _ => []
  | count + 1, s =>
    let value := Hmac.sha256 s.key s.value
    Bytes.toNatBE value :: candidates count (State.refresh ⟨s.key, value⟩ [0])

end Nonce

/-- The signature made with one nonce, unless one of its halves is zero. -/
def signWith? (key : PrivateKey) (digest nonce : Nat) : Option Signature :=
  if nonce = 0 ∨ nonce ≥ groupOrder then none
  else
    match (Projective.multiple nonce (.ofPoint base)).toPoint? with
    | none => none
    | some p =>
      let r := p.x % groupOrder
      let s := inverse groupOrder nonce * ((digest + key.secret * r) % groupOrder) % groupOrder
      if r = 0 ∨ s = 0 then none else some ⟨r, s⟩

/-- How many nonces are tried; already the first one serves but for a chance of about 2 ^ -128. -/
def attempts : Nat := 256

def sign (key : PrivateKey) (digest : Bytes) : Except Fault Signature :=
  if digest = [] then .error .emptyDigest
  else if digest.length > 32 then .error .digestTooLong
  else
    let n := Bytes.toNatBE digest
    match (Nonce.candidates attempts (Nonce.start key.secret n)).findSome? (signWith? key n) with
    | some signature => .ok signature
    | none => .error .noNonce

/-- Whether the signature's halves fit the number that was signed. -/
def Signature.fits (signature : Signature) (p : Point) (digest : Nat) : Except Fault Bool :=
  let ⟨r, s⟩ := signature
  if r = 0 ∨ r ≥ groupOrder ∨ s = 0 ∨ s ≥ groupOrder then .ok false
  else
    let i := inverse groupOrder s
    let sum := Projective.add
      (.multiple (digest * i % groupOrder) (.ofPoint base))
      (.multiple (r * i % groupOrder) (.ofPoint p))
    match sum.toPoint? with
    | none => .error .pointAtInfinity
    | some q => .ok (q.x % groupOrder = r)

/-- Checks an encoded signature. A digest that is too long is a fault whatever the signature; an
empty digest is signed by nothing. -/
def verify (p : Point) (digest signature : Bytes) : Except Fault Bool :=
  if digest.length > 32 then .error .digestTooLong
  else if digest = [] then .ok false
  else
    match Der.decodePair? signature with
    | none => .ok false
    | some (r, s) => Signature.fits ⟨r, s⟩ p (Bytes.toNatBE digest)

/-- Checks a signature when key and signature are given in hexadecimal. Bad text signs nothing. -/
def verifyHex (publicKey : Text) (digest : Bytes) (signature : Text) : Except Fault Bool :=
  match (Hex.decode? publicKey).bind Point.decode?, Hex.decode? signature with
  | some p, some bytes => verify p digest bytes
  | _, _ => .ok false

end BitcoinReserve.Ecdsa
