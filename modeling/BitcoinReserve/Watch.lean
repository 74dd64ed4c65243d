import BitcoinReserve.Parameters
import BitcoinReserve.Status
import BitcoinReserve.Table

/-!
# Watching over reserves

Watchdogs propose and vote on changes of a reserve's status, and report critical findings that count
for a limited time.
-/
namespace BitcoinReserve

/-- A change of status that a proposal asks for. -/
structure StatusAction where
  reserve : Text
  status : ReserveStatus
  reason : Text
  deriving DecidableEq, Repr

structure Proposal where
  id : Nat
  proposer : Text
  action : StatusAction
  createdAt : Int
  votingEndsAt : Int
  voters : List Text
  executed : Bool
  executedAt : Option Int
  deriving DecidableEq, Repr

namespace Proposal

def new (id : Nat) (proposer : Text) (action : StatusAction) (now period : Int) : Proposal where
  id := id
  proposer := proposer
  action := action
  createdAt := now
  votingEndsAt := now + period
  voters := [proposer]
  executed := false
  executedAt := none

def votes (p : Proposal) : Int := p.voters.length

def status (p : Proposal) (now quorum : Int) : ProposalStatus :=
  if p.executed then .executed
  else if quorum ≤ p.votes then .approved
  else if p.votingEndsAt < now then .expired
  else .voting

def isActive (p : Proposal) (now quorum : Int) : Bool :=
  match p.status now quorum with
  | .voting | .approved => true
  | .expired | .executed => false

end Proposal

structure ProposalBook where
  count : Nat
  proposals : Table Nat Proposal

namespace ProposalBook

def empty : ProposalBook := ⟨0, .empty⟩

def proposal? (b : ProposalBook) : Int → Option Proposal
  | .ofNat id => b.proposals.get? id
  | .negSucc _ => none

def put (b : ProposalBook) (p : Proposal) : ProposalBook :=
  { b with proposals := b.proposals.insert p.id p }

def openNew (b : ProposalBook) (proposer : Text) (action : StatusAction) (now period : Int) :
    Nat × ProposalBook :=
  let p := Proposal.new (b.count + 1) proposer action now period
  (p.id, { b.put p with count := b.count + 1 })

def active (b : ProposalBook) (now quorum : Int) : List Proposal :=
  b.proposals.values.filter (·.isActive now quorum)

end ProposalBook

structure CriticalReport where
  reporter : Text
  reserve : Text
  reason : Text
  reportedAt : Int
  deriving DecidableEq, Repr

/-- The reports of each reserve that were last found to count. -/
abbrev ReportLog := Table Text (List CriticalReport)

namespace ReportLog

/-- The reports of a reserve that lie inside the window. -/
def live (log : ReportLog) (p : Parameters) (reserve : Text) (now : Int) : List CriticalReport :=
  (log.getD reserve []).filter fun r => now - p.reportWindow < r.reportedAt

/-- Forgets the reports of a reserve that lie outside the window. -/
def prune (log : ReportLog) (p : Parameters) (reserve : Text) (now : Int) : ReportLog :=
  log.insert reserve (live log p reserve now)

end ReportLog

end BitcoinReserve
