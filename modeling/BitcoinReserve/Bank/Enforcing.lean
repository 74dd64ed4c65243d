import BitcoinReserve.Bank.State

/-!
# Enforcing objective violations

Anyone may put a reserve under review when the oracle's data shows a violation. Too little backing
also starts a timer: a reserve that is still under review when it has run out can be frozen.
-/
namespace BitcoinReserve.Bank

/-- What the oracle's data shows about a violation of a registered reserve. -/
def examine (s : Bank) (reserve : Text) (v : Violation) (now : Int) :
    Except Refusal Violation.Finding := do
  let a ← s.ledger.account reserve
  let (balance, old) := s.oracle.balanceAndAge s.params reserve now
  match v with
  | .staleAttestations => return if old then .violated else .fresh
  | .insufficientReserves =>
    if old then return .stale
    else if balance * 100 < a.minted * s.params.minCollateralRatio then return .violated
    else return .sufficient

/-- Checks the violation of a code. A code that names none is found wanting before the reserve. -/
def checkViolation (s : Bank) (reserve code : Text) (now : Int) :
    Except Refusal Violation.Finding :=
  match Violation.named? code with
  | none => .ok .notObjective
  | some v => s.examine reserve v now

/-- The registered ones of the reserves that are in violation, in order. -/
def violators (s : Bank) (reserves : List Text) (code : Text) (now : Int) : List Text :=
  reserves.filter fun reserve =>
    match s.checkViolation reserve code now with
    | .ok .violated => s.ledger.hasReserve reserve
    | _ => false

/-- The violation that a code names. -/
def objective (code : Text) : Except Refusal Violation :=
  match Violation.named? code with
  | some v => .ok v
  | none => .error (.notObjective code)

/-- Puts a violating reserve under review and gives the time of escalation where a timer starts. -/
def enforce (reserve code : Text) (now : Int) : Action (Option Int) := do
  let v ← Action.decide fun _ => objective code
  let finding ← Action.decide fun s => s.examine reserve v now
  Action.ensure (finding = .violated) (.noViolation finding)
  let a ← Action.account reserve
  if a.status ≠ .underReview then
    Action.onLedger_ fun s => s.ledger.setStatus reserve .underReview v.name (some now)
  match v with
  | .staleAttestations => return none
  | .insufficientReserves =>
    modify fun s => { s with timers := s.timers.insert reserve now }
    return some (now + (← get).params.escalationDelay)

def stopTimer (reserve : Text) : Action Unit :=
  modify fun s => { s with timers := s.timers.erase reserve }

/-- Freezes a reserve that stayed under review past the delay. The timer of one that left review is
stopped instead. -/
def escalate (reserve : Text) (now : Int) : Action Bool := do
  let s ← get
  match s.timers.get? reserve with
  | none => throw (.timerMissing reserve)
  | some started =>
    let a ← Action.account reserve
    if a.status ≠ .underReview then
      stopTimer reserve
      return false
    else
      let due := started + s.params.escalationDelay
      Action.ensure (due ≤ now) (.escalationNotDue due)
      if a.frozen = false then
        Action.onLedger_ fun s => s.ledger.setFrozen reserve true
      stopTimer reserve
      return true

/-- Stops the timer of a reserve that is no longer under review. -/
def clearTimer (reserve : Text) : Action Bool := do
  let s ← get
  if s.timers.contains reserve = false then return false
  else
    let a ← Action.account reserve
    if a.status = .underReview then return false
    else
      stopTimer reserve
      return true

/-- When a reserve can be frozen for staying under review. -/
def escalationDue (s : Bank) (reserve : Text) : Option Int :=
  (s.timers.get? reserve).map (· + s.params.escalationDelay)

end BitcoinReserve.Bank
