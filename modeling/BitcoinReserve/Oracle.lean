import BitcoinReserve.Bytes
import BitcoinReserve.Parameters
import BitcoinReserve.Status
import BitcoinReserve.Table

/-!
# The oracle

Attesters report the balance of a reserve in rounds. A round that holds enough reports and a strict
majority for one amount makes that amount the reserve's balance. Each reserve has at most one open
round; closed rounds are kept.
-/
namespace BitcoinReserve

structure Attestation where
  attester : Text
  amount : Int
  proofHash : Bytes
  submittedAt : Int
  deriving DecidableEq, Repr

structure Round where
  id : Nat
  reserve : Text
  openedAt : Int
  deadline : Int
  status : RoundStatus
  /-- The last attestation of each attester. -/
  attestations : Table Text Attestation
  finalizedAmount : Option Int
  closedAt : Option Int

namespace Round

def new (id : Nat) (reserve : Text) (now timeout : Int) : Round where
  id := id
  reserve := reserve
  openedAt := now
  deadline := now + timeout
  status := .pending
  attestations := .empty
  finalizedAmount := none
  closedAt := none

def isExpired (r : Round) (now : Int) : Bool := r.deadline < now

def amounts (r : Round) : List Int := r.attestations.values.map Attestation.amount

/-- How many attestations the round holds. -/
def size (r : Round) : Nat := r.attestations.entries.length

/-- The amount that a strict majority of the attestations has, with its count. -/
def majority? (r : Round) : Option (Int × Nat) :=
  (r.amounts.find? fun amount => r.size < 2 * r.amounts.count amount).map fun amount =>
    (amount, r.amounts.count amount)

def record (r : Round) (a : Attestation) : Round :=
  { r with attestations := r.attestations.insert a.attester a }

def close (r : Round) (status : RoundStatus) (now : Int) : Round :=
  { r with status, closedAt := some now }

end Round

structure Balance where
  amount : Int
  updatedAt : Int
  /-- The round that found the balance; none when an arbiter set it. -/
  round : Option Nat
  deriving DecidableEq, Repr

structure Override where
  reserve : Text
  arbiter : Text
  priorAmount : Option Int
  newAmount : Int
  justification : Text
  overriddenAt : Int
  deriving DecidableEq, Repr

/-- What a submission did to its round. -/
structure Submission where
  round : Nat
  status : RoundStatus
  submissions : Nat
  finalizedAmount : Option Int
  deriving DecidableEq, Repr

structure Oracle where
  roundCount : Nat
  openRounds : Table Text Nat
  rounds : Table Nat Round
  balances : Table Text Balance
  overrides : List Override

namespace Oracle

def empty : Oracle := ⟨0, .empty, .empty, .empty, []⟩

def openRound? (o : Oracle) (reserve : Text) : Option Round :=
  (o.openRounds.get? reserve).bind o.rounds.get?

def round? (o : Oracle) : Int → Option Round
  | .ofNat id => o.rounds.get? id
  | .negSucc _ => none

/-- The reserve's balance and whether it is too old; a missing one is 0 and too old. -/
def balanceAndAge (o : Oracle) (p : Parameters) (reserve : Text) (now : Int) : Int × Bool :=
  match o.balances.get? reserve with
  | none => (0, true)
  | some b => (b.amount, p.maxStaleness < now - b.updatedAt)

/-- The overrides of one reserve or of all. -/
def overridesOf (o : Oracle) (reserve : Option Text) : List Override :=
  o.overrides.filter fun r => reserve.all (· = r.reserve)

def putRound (o : Oracle) (r : Round) : Oracle := { o with rounds := o.rounds.insert r.id r }

def openNew (o : Oracle) (p : Parameters) (reserve : Text) (now : Int) : Round × Oracle :=
  let r := Round.new (o.roundCount + 1) reserve now p.attestationTimeout
  (r, { o with
    roundCount := o.roundCount + 1
    openRounds := o.openRounds.insert reserve r.id
    rounds := o.rounds.insert r.id r })

def close (o : Oracle) (r : Round) (status : RoundStatus) (now : Int) : Oracle :=
  { o.putRound (r.close status now) with openRounds := o.openRounds.erase r.reserve }

def setBalance (o : Oracle) (reserve : Text) (b : Balance) : Oracle :=
  { o with balances := o.balances.insert reserve b }

end Oracle

end BitcoinReserve
