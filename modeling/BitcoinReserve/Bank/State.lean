import BitcoinReserve.Ledger
import BitcoinReserve.Oracle
import BitcoinReserve.Redemption
import BitcoinReserve.SignedAttestation
import BitcoinReserve.Watch

/-!
# The bank of reserves

The ledger, the oracle and the books of a bank side by side. An action may change the bank and be
refused later; what it has changed by then stays changed.
-/
namespace BitcoinReserve

structure Bank where
  params : Parameters
  authority : Authority
  relay : Relay
  ledger : Ledger
  oracle : Oracle
  redemptions : RedemptionBook
  proposals : ProposalBook
  reports : ReportLog
  /-- When the review of a reserve with too little backing began. -/
  timers : Table Text Int
  /-- The transactions that proved control of a wallet. -/
  walletProofs : KeySet Bytes

namespace Bank

def new (authority : Authority) (relay : Relay) (params : Parameters) : Bank where
  params := params
  authority := authority
  relay := relay
  ledger := .empty
  oracle := .empty
  redemptions := .empty
  proposals := .empty
  reports := .empty
  timers := .empty
  walletProofs := .empty

/-- Judges evidence by what the relay says now. -/
def verifier (s : Bank) : Verifier where
  relay := s.relay
  factor := s.params.difficultyFactor
  network := s.params.network
  factor_pos := s.params.sound.difficultyFactor_pos

end Bank

abbrev Action (α : Type) := EStateM Refusal Bank α

namespace Action

/-- Decides by the state and changes nothing. -/
def decide {α : Type} (f : Bank → Except Refusal α) : Action α := fun s =>
  match f s with
  | .ok a => .ok a s
  | .error r => .error r s

/-- Replaces the ledger, unless the change is refused. -/
def onLedger {α : Type} (f : Bank → Except Refusal (α × Ledger)) : Action α := fun s =>
  match f s with
  | .ok (a, ledger) => .ok a { s with ledger }
  | .error r => .error r s

def onLedger_ (f : Bank → Except Refusal Ledger) : Action Unit :=
  onLedger fun s => (f s).map ((), ·)

def onOracle (f : Oracle → Oracle) : Action Unit := modify fun s => { s with oracle := f s.oracle }

def onRedemptions (f : RedemptionBook → RedemptionBook) : Action Unit :=
  modify fun s => { s with redemptions := f s.redemptions }

def require (caller : Text) (role : Role) : Action Unit :=
  decide fun s => s.authority.require caller role

def ensure (condition : Prop) [Decidable condition] (refusal : Refusal) : Action Unit :=
  decide fun _ => BitcoinReserve.ensure condition refusal

def account (reserve : Text) : Action Account := decide fun s => s.ledger.account reserve

/-- Runs an action to its result or its refusal. -/
def outcome {α : Type} (x : Action α) : Action (Except Refusal α) := fun s =>
  match x s with
  | .ok a s => .ok (.ok a) s
  | .error r s => .ok (.error r) s

end Action

end BitcoinReserve
