import BitcoinReserve.Bank.State

/-!
# Escalating reports

Enough watchdogs that report a reserve within the window freeze it. Governance may freeze a reserve
at once and is the only one to thaw it.
-/
namespace BitcoinReserve.Bank

/-- Forgets old reports of a reserve and gives those that count. -/
def liveReports (reserve : Text) (now : Int) : Action (List CriticalReport) := do
  let s ← get
  set { s with reports := s.reports.prune s.params reserve now }
  return s.reports.live s.params reserve now

/-- What a report must fulfil before its reserve is looked at. -/
def checkReport (s : Bank) (caller : Text) (hasReason : Bool) : Except Refusal Unit := do
  s.authority.require caller .watchdog
  ensure (hasReason = true) .reportReasonMissing

/-- Files a report and says whether the reserve is frozen now. -/
def report (caller reserve reason : Text) (now : Int) : Action Bool := do
  Action.decide fun s => s.checkReport caller (reason ≠ "")
  let a ← Action.account reserve
  let live ← liveReports reserve now
  Action.ensure (live.all (·.reporter ≠ caller) = true) (.reportedAlready caller reserve)
  let live := live ++ [⟨caller, reserve, reason, now⟩]
  modify fun s => { s with reports := s.reports.insert reserve live }
  if a.frozen then return true
  else if (← get).params.reportThreshold ≤ live.length then
    Action.onLedger_ fun s => s.ledger.setFrozen reserve true
    return true
  else return false

def freeze (caller reserve : Text) : Action Unit := do
  Action.require caller .governance
  Action.onLedger_ fun s => s.ledger.setFrozen reserve true

/-- Thaws a reserve, whose reports are then forgotten. Its status stays. -/
def thaw (caller reserve : Text) : Action Unit := do
  Action.require caller .governance
  Action.onLedger_ fun s => s.ledger.setFrozen reserve false
  modify fun s => { s with reports := s.reports.erase reserve }

def countReports (reserve : Text) (now : Int) : Action Nat := do
  return (← liveReports reserve now).length

end BitcoinReserve.Bank
