import BitcoinReserve.Crypto.Ecdsa
import BitcoinReserve.Text.Utf8

/-!
# Signed attestations

An attestation that names its attester by a public key. The signature covers a tag, the reserve, the
amount in 16 bytes and the hash of the attester's proof.
-/
namespace BitcoinReserve

structure SignedAttestation where
  key : Text
  reserve : Text
  amount : Int
  proofHash : Bytes
  signature : Text
  deriving DecidableEq, Repr

namespace SignedAttestation

inductive Fault where
  /-- The reserve's name has no bytes. -/
  | reserveUnencodable
  /-- The amount does not fit 16 bytes. -/
  | amountOutOfRange
  | signature (fault : Ecdsa.Fault)
  deriving DecidableEq, Repr

def tag : Bytes := Text.utf8 "QC_RESERVE_ATTESTATION_V1"

/-- The bytes that are hashed for the signature. -/
def preimage (reserve : Text) (amount : Int) (proofHash : Bytes) : Except Fault Bytes :=
  match Text.utf8? reserve, Bytes.ofIntBE? 16 amount with
  | some reserve, some amount => .ok (tag ++ reserve ++ amount ++ proofHash)
  | none, _ => .error .reserveUnencodable
  | _, none => .error .amountOutOfRange

def digest (reserve : Text) (amount : Int) (proofHash : Bytes) : Except Fault Bytes :=
  (preimage reserve amount proofHash).map sha256

/-- Signs in the name of the key's compressed public form. -/
def create (key : Ecdsa.PrivateKey) (reserve : Text) (amount : Int) (proofHash : Bytes) :
    Except Fault SignedAttestation := do
  let digest ← digest reserve amount proofHash
  let point ←
    match key.publicKey? with
    | some point => .ok point
    | none => .error (.signature .pointAtInfinity)
  let signature ← (Ecdsa.sign key digest).mapError Fault.signature
  return {
    key := Hex.encode point.encode
    reserve, amount, proofHash
    signature := Hex.encode (Der.encodePair signature.r signature.s) }

def verify (a : SignedAttestation) : Except Fault Bool := do
  let digest ← digest a.reserve a.amount a.proofHash
  (Ecdsa.verifyHex a.key digest a.signature).mapError Fault.signature

end SignedAttestation

end BitcoinReserve
