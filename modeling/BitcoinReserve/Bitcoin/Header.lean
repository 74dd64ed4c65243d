import BitcoinReserve.Bitcoin.Network
import BitcoinReserve.Crypto.Sha256

/-!
# Block headers

A header is 80 bytes. The fields of a shorter string are what is left of them.
-/
namespace BitcoinReserve.Header

def size : Nat := 80

def previousHash (header : Bytes) : Bytes := (header.drop 4).take 32

def merkleRoot (header : Bytes) : Bytes := (header.drop 36).take 32

/-- The compact form of the target. -/
def bits (header : Bytes) : Nat := Bytes.toNatLE ((header.drop 72).take 4)

/-- The low three bytes are a mantissa, the rest counts the bytes of the target. -/
def expandBits (bits : Nat) : Nat :=
  let exponent := bits / Bytes.span 3
  let mantissa := bits % Bytes.span 3
  if exponent ≤ 3 then mantissa / Bytes.span (3 - exponent)
  else mantissa * Bytes.span (exponent - 3)

def target (header : Bytes) : Nat := expandBits (bits header)

def hash (header : Bytes) : Bytes := hash256 header

/-- Whether the hash, as a number, is within the header's own target. -/
def meetsTarget (header : Bytes) : Bool := Bytes.toNatLE (hash header) ≤ target header

/-- How often the target of difficulty 1 holds the target, in whole numbers. -/
def difficultyOf (limit target : Int) : Int := if target ≤ 0 then 0 else limit / target

def difficulty (network : Network) (header : Bytes) : Int :=
  difficultyOf network.powLimit (target header)

def split (headers : Bytes) : List Bytes := pieces size headers

end BitcoinReserve.Header
