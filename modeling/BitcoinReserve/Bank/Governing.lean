import BitcoinReserve.Bank.State

/-!
# Governing statuses

A watchdog proposes a change of status, further watchdogs vote, and a proposal with a quorum is
executed once, within the voting period or after it as the policy says.
-/
namespace BitcoinReserve.Bank

def propose (caller reserve : Text) (status : ReserveStatus) (reason : Text) (now : Int) :
    Action Nat := do
  Action.require caller .watchdog
  let _ ← Action.account reserve
  Action.ensure (status ≠ .emergencyPaused) .freezeAsProposal
  Action.ensure (reason ≠ "") .proposalReasonMissing
  let s ← get
  let (id, proposals) :=
    s.proposals.openNew caller ⟨reserve, status, reason⟩ now s.params.votingPeriod
  set { s with proposals }
  return id

/-- A proposal that is not executed yet. -/
def openProposal (s : Bank) (id : Int) : Except Refusal Proposal :=
  match s.proposals.proposal? id with
  | none => .error (.proposalUnknown id)
  | some p => do
    ensure (p.executed = false) (.proposalExecuted id)
    return p

/-- Counts the caller's vote and gives the number of votes. -/
def vote (caller : Text) (id now : Int) : Action Int := do
  Action.require caller .watchdog
  let p ← Action.decide fun s => s.openProposal id
  Action.ensure (now ≤ p.votingEndsAt) (.votingOver p.votingEndsAt)
  Action.ensure (caller ∉ p.voters) (.votedAlready caller id)
  let p := { p with voters := p.voters ++ [caller] }
  modify fun s => { s with proposals := s.proposals.put p }
  return p.votes

/-- Refuses an execution outside the time that the policy sets. -/
def checkTime (policy : ExecutionPolicy) (p : Proposal) (now : Int) : Except Refusal Unit :=
  match policy with
  | .withinVotingPeriod => ensure (now ≤ p.votingEndsAt) (.proposalExpired p.votingEndsAt)
  | .afterVotingPeriod => ensure (p.votingEndsAt < now) (.votingOpen p.votingEndsAt)

def execute (caller : Text) (id now : Int) : Action StatusAction := do
  Action.require caller .watchdog
  let p ← Action.decide fun s => s.openProposal id
  let s ← get
  Action.ensure (s.params.watchdogQuorum ≤ p.votes) (.quorumLacking p.votes s.params.watchdogQuorum)
  Action.decide fun s => checkTime s.params.executionPolicy p now
  Action.onLedger_ fun s =>
    s.ledger.setStatus p.action.reserve p.action.status p.action.reason (some now)
  modify fun s =>
    { s with proposals := s.proposals.put { p with executed := true, executedAt := some now } }
  return p.action

end BitcoinReserve.Bank
