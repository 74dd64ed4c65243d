import BitcoinReserve.Bitcoin.Address
import BitcoinReserve.Bitcoin.Header
import BitcoinReserve.Bitcoin.Merkle

/-!
# Evidence for a confirmed transaction

Evidence places a transaction in a block by a merkle branch, binds the depth of the branch by that
of the coinbase transaction, and shows a chain of headers with enough work from that block on. The
difficulty of the epoch comes from a relay outside.
-/
namespace BitcoinReserve

structure Evidence where
  merkleBranch : Bytes
  txIndex : Int
  /-- Headers of 80 bytes, the block of the transaction first. -/
  headers : Bytes
  /-- The single SHA-256 of the coinbase transaction. -/
  coinbasePreimage : Bytes
  coinbaseBranch : Bytes
  deriving DecidableEq, Repr

/-- The difficulties of the current and the previous epoch. -/
structure Relay where
  current : Int
  previous : Int
  deriving DecidableEq, Repr

namespace Evidence

inductive Fault where
  | versionOrLocktime
  | inputVector
  | outputVector
  | branchLengths
  | headersLength (length : Nat)
  | merkleBranch
  | coinbaseBranch
  | factorBelowOne (factor : Int)
  | difficulty (found current previous : Int)
  | unlinked (position : Nat)
  | work (position : Nat)
  | totalWork (observed requested factor : Int)
  | challenge
  | wallet (wallet : Text) (network : Network)
  | challengeNotFound
  deriving DecidableEq, Repr

namespace Fault

def kind : Fault → Kind
  | versionOrLocktime | factorBelowOne _ | challenge => .invalidParameters
  | inputVector => .badInputVector
  | outputVector => .badOutputVector
  | branchLengths => .proofLengthMismatch
  | headersLength _ => .invalidHeadersLength
  | merkleBranch => .merkleProofInvalid
  | coinbaseBranch => .coinbaseProofInvalid
  | difficulty _ _ _ => .difficultyMismatch
  | unlinked _ => .invalidHeaderChain
  | work _ => .insufficientHeaderWork
  | totalWork _ _ _ => .insufficientAccumulatedWork
  | wallet _ _ => .invalidAddressFormat
  | challengeNotFound => .walletControlNotProven

def message : Fault → Text
  | versionOrLocktime => "Version and locktime must be 4 bytes each"
  | inputVector => "Invalid input vector"
  | outputVector => "Invalid output vector"
  | branchLengths => "Tx and coinbase proofs differ in length"
  | headersLength n => s!"Header chain length {n} is not a multiple of 80"
  | merkleBranch => "Tx merkle proof failed"
  | coinbaseBranch => "Coinbase merkle proof failed"
  | factorBelowOne factor => s!"Difficulty factor must be at least 1, got {factor}"
  | difficulty found current previous =>
    s!"Header difficulty {found} is neither current {current} nor previous {previous}"
  | unlinked i => s!"Header {i} does not extend header {i - 1}"
  | work i => s!"Header {i} hash exceeds its target"
  | totalWork observed requested factor =>
    s!"Observed work {observed} below {requested} x {factor}"
  | challenge => "Challenge must be 32 non-zero bytes"
  | wallet address network => address ++ s!" is not a {network.name} address"
  | challengeNotFound => "Challenge not found in any OP_RETURN output"

def notice (f : Fault) : Notice := ⟨f.kind, f.message⟩

end Fault

end Evidence

/-- The headers from `position` on link up, the first one with `previous`, and each meets its
target; gives the sum of their difficulties. -/
def chainWork (network : Network) :
    (position : Nat) → (previous : Option Bytes) → List Bytes → Except Evidence.Fault Int
  | _, _, [] => .ok 0
  | position, previous, header :: rest =>
    if previous.any (· ≠ Header.previousHash header) then .error (.unlinked position)
    else if !Header.meetsTarget header then .error (.work position)
    else
      match chainWork network (position + 1) (some (Header.hash header)) rest with
      | .ok work => .ok (Header.difficulty network header + work)
      | .error f => .error f

structure Verifier where
  relay : Relay
  /-- How many times the epoch's difficulty the headers must show. -/
  factor : Int
  network : Network
  factor_pos : 1 ≤ factor

namespace Verifier

def factorMessage : String := "Difficulty factor must be at least 1"

def new? (relay : Relay) (factor : Int) (network : Network) : Option Verifier :=
  if h : 1 ≤ factor then some ⟨relay, factor, network, h⟩ else none

def headersFault? (headers : Bytes) : Option Evidence.Fault :=
  if headers = [] ∨ headers.length % Header.size ≠ 0 then some (.headersLength headers.length)
  else none

/-- The work of a chain of headers. -/
def chain (v : Verifier) (headers : Bytes) : Except Evidence.Fault Int :=
  match headersFault? headers with
  | some f => .error f
  | none => chainWork v.network 0 none (Header.split headers)

/-- The work of a chain that opens at a difficulty of the relay and shows it `factor` times. -/
def confirmations (v : Verifier) (headers : Bytes) (factor : Option Int) :
    Except Evidence.Fault Int :=
  let factor := factor.getD v.factor
  let first := Header.difficulty v.network (headers.take Header.size)
  if factor < 1 then .error (.factorBelowOne factor)
  else if first ≠ v.relay.current ∧ first ≠ v.relay.previous then
    .error (.difficulty first v.relay.current v.relay.previous)
  else
    match v.chain headers with
    | .error f => .error f
    | .ok work =>
      if work < first * factor then .error (.totalWork work first factor) else .ok work

/-- The hash of a transaction that the evidence confirms. -/
def verify (v : Verifier) (tx : Transaction) (e : Evidence) (factor : Option Int) :
    Except Evidence.Fault Bytes :=
  if tx.version.length ≠ 4 ∨ tx.locktime.length ≠ 4 then .error .versionOrLocktime
  else if !InputVector.valid tx.inputVector then .error .inputVector
  else if !OutputVector.valid tx.outputVector then .error .outputVector
  else if e.merkleBranch.length ≠ e.coinbaseBranch.length then .error .branchLengths
  else
    match headersFault? e.headers with
    | some f => .error f
    | none =>
      let root := Header.merkleRoot (e.headers.take Header.size)
      if !Merkle.proves tx.hash root e.merkleBranch e.txIndex then .error .merkleBranch
      else if !Merkle.proves (sha256 e.coinbasePreimage) root e.coinbaseBranch 0 then
        .error .coinbaseBranch
      else
        match v.confirmations e.headers factor with
        | .error f => .error f
        | .ok _ => .ok tx.hash

/-- Whether the evidence holds, and the transaction hash or else 32 zero bytes. -/
def verifyOrZero (v : Verifier) (tx : Transaction) (e : Evidence) (factor : Option Int) :
    Bool × Bytes :=
  match v.verify tx e factor with
  | .ok hash => (true, hash)
  | .error _ => (false, Bytes.zeros 32)

/-- The hash of a confirmed transaction that carries the challenge for a wallet of the network. -/
def verifyControl (v : Verifier) (wallet : Text) (challenge : Bytes) (tx : Transaction)
    (e : Evidence) (factor : Option Int) : Except Evidence.Fault Bytes :=
  if challenge.length ≠ 32 ∨ challenge = Bytes.zeros 32 then .error .challenge
  else if !Address.valid v.network wallet then .error (.wallet wallet v.network)
  else
    match v.verify tx e factor with
    | .error f => .error f
    | .ok hash =>
      if OutputVector.carries tx.outputVector challenge then .ok hash
      else .error .challengeNotFound

end Verifier

end BitcoinReserve
