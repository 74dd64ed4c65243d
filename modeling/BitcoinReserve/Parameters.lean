import BitcoinReserve.Bitcoin.Network
import BitcoinReserve.Text.Quoted

/-!
# Parameters

The limits that every component shares. Settings are what an operator writes; parameters are
settings that have been found sound.
-/
namespace BitcoinReserve

/-- When an approved proposal may be executed. -/
inductive ExecutionPolicy where
  | withinVotingPeriod
  | afterVotingPeriod
  deriving DecidableEq, Repr

namespace ExecutionPolicy

def name : ExecutionPolicy → String
  | withinVotingPeriod => "within_voting_period"
  | afterVotingPeriod => "after_voting_period"

def named? (text : Text) : Option ExecutionPolicy :=
  [withinVotingPeriod, afterVotingPeriod].find? (·.name = text)

end ExecutionPolicy

/-- Times are in seconds, amounts in satoshis, the ratio in percent of the minted tokens. -/
structure Limits where
  consensusThreshold : Int
  attestationTimeout : Int
  maxStaleness : Int
  minSyncInterval : Int
  maxBatchOperations : Int
  redemptionTimeout : Int
  minRedemptionAmount : Int
  dustThreshold : Int
  paymentTolerance : Int
  difficultyFactor : Int
  allowTrustedFulfillment : Bool
  permissionlessFulfillment : Bool
  watchdogQuorum : Int
  votingPeriod : Int
  reportThreshold : Int
  reportWindow : Int
  minCollateralRatio : Int
  escalationDelay : Int
  deriving DecidableEq, Repr

structure Limits.Sound (l : Limits) : Prop where
  consensusThreshold_ge : 3 ≤ l.consensusThreshold
  consensusThreshold_odd : l.consensusThreshold % 2 = 1
  attestationTimeout_pos : 0 < l.attestationTimeout
  maxStaleness_pos : 0 < l.maxStaleness
  redemptionTimeout_pos : 0 < l.redemptionTimeout
  votingPeriod_pos : 0 < l.votingPeriod
  reportWindow_pos : 0 < l.reportWindow
  escalationDelay_pos : 0 < l.escalationDelay
  minSyncInterval_nonneg : 0 ≤ l.minSyncInterval
  paymentTolerance_nonneg : 0 ≤ l.paymentTolerance
  maxBatchOperations_pos : 1 ≤ l.maxBatchOperations
  dust_le_minRedemption : l.dustThreshold ≤ l.minRedemptionAmount
  difficultyFactor_pos : 1 ≤ l.difficultyFactor
  watchdogQuorum_pos : 1 ≤ l.watchdogQuorum
  reportThreshold_pos : 1 ≤ l.reportThreshold
  minCollateralRatio_ge : 100 ≤ l.minCollateralRatio

structure Settings extends Limits where
  network : Text
  executionPolicy : Text
  deriving DecidableEq, Repr

structure Parameters extends Limits where
  network : Network
  executionPolicy : ExecutionPolicy
  sound : toLimits.Sound

namespace Parameters

inductive Fault where
  | policy (text : Text)
  | network (text : Text)
  | consensusThreshold (value : Int)
  | notPositive (name : String)
  | negative
  | batch
  | minimum (amount dust : Int)
  | factor
  | quorum
  | ratio (value : Int)
  | unknown (names : List Text)
  deriving DecidableEq, Repr

def Fault.message : Fault → Text
  | .policy text => Text.quoted text ++ " is not a valid ExecutionPolicy"
  | .network text => Network.unknownMessage text
  | .consensusThreshold value => s!"Consensus threshold must be odd and at least 3, got {value}"
  | .notPositive name => s!"{name} must be positive"
  | .negative => "Intervals and tolerances cannot be negative"
  | .batch => "Batch budget must allow at least one operation"
  | .minimum amount dust => s!"Minimum redemption {amount} is below dust {dust}"
  | .factor => "Difficulty factor must be at least 1"
  | .quorum => "Quorum and report threshold must be at least 1"
  | .ratio value => s!"Collateral ratio must be at least 100%, got {value}"
  | .unknown names => "Unknown parameters: " ++ Text.quotedList names

end Parameters

namespace Settings

/-- A value that an operator gives to a setting. -/
inductive Entry where
  | number (n : Int)
  | flag (b : Bool)
  | text (s : Text)
  /-- A value that suits no setting. -/
  | other
  deriving DecidableEq, Repr

/-- The settings of the real network: long proofs, and no payout without one. -/
def mainnet : Settings where
  network := "mainnet"
  consensusThreshold := 3
  attestationTimeout := 6 * 3600
  maxStaleness := 24 * 3600
  minSyncInterval := 5 * 60
  maxBatchOperations := 50
  redemptionTimeout := 7 * 24 * 3600
  minRedemptionAmount := 100000
  dustThreshold := 546
  paymentTolerance := 0
  difficultyFactor := 6
  allowTrustedFulfillment := false
  permissionlessFulfillment := true
  watchdogQuorum := 3
  votingPeriod := 2 * 3600
  executionPolicy := "within_voting_period"
  reportThreshold := 3
  reportWindow := 3600
  minCollateralRatio := 100
  escalationDelay := 45 * 60

/-- Settings of a test network, with short proofs and trusted payouts. -/
def testing : Settings :=
  { mainnet with
    network := "regtest"
    attestationTimeout := 2 * 3600
    minSyncInterval := 60
    maxBatchOperations := 10
    minRedemptionAmount := 546
    difficultyFactor := 1
    allowTrustedFulfillment := true }

/-- The settings under their written names. -/
def entries (s : Settings) : List (String × Entry) :=
  [("network", .text s.network),
    ("consensus_threshold", .number s.consensusThreshold),
    ("attestation_timeout", .number s.attestationTimeout),
    ("max_staleness", .number s.maxStaleness),
    ("min_sync_interval", .number s.minSyncInterval),
    ("max_batch_operations", .number s.maxBatchOperations),
    ("redemption_timeout", .number s.redemptionTimeout),
    ("min_redemption_amount", .number s.minRedemptionAmount),
    ("dust_threshold", .number s.dustThreshold),
    ("payment_tolerance", .number s.paymentTolerance),
    ("tx_proof_difficulty_factor", .number s.difficultyFactor),
    ("allow_trusted_fulfillment", .flag s.allowTrustedFulfillment),
    ("permissionless_fulfillment", .flag s.permissionlessFulfillment),
    ("watchdog_quorum", .number s.watchdogQuorum),
    ("voting_period", .number s.votingPeriod),
    ("execution_policy", .text s.executionPolicy),
    ("emergency_report_threshold", .number s.reportThreshold),
    ("emergency_report_window", .number s.reportWindow),
    ("min_collateral_ratio", .number s.minCollateralRatio),
    ("escalation_delay", .number s.escalationDelay)]

/-- Gives one setting a new value; fails where there is no setting of that name and type. -/
def set? (s : Settings) (name : Text) (entry : Entry) : Option Settings :=
  match name.string?, entry with
  | some "network", .text x => some { s with network := x }
  | some "consensus_threshold", .number x => some { s with consensusThreshold := x }
  | some "attestation_timeout", .number x => some { s with attestationTimeout := x }
  | some "max_staleness", .number x => some { s with maxStaleness := x }
  | some "min_sync_interval", .number x => some { s with minSyncInterval := x }
  | some "max_batch_operations", .number x => some { s with maxBatchOperations := x }
  | some "redemption_timeout", .number x => some { s with redemptionTimeout := x }
  | some "min_redemption_amount", .number x => some { s with minRedemptionAmount := x }
  | some "dust_threshold", .number x => some { s with dustThreshold := x }
  | some "payment_tolerance", .number x => some { s with paymentTolerance := x }
  | some "tx_proof_difficulty_factor", .number x => some { s with difficultyFactor := x }
  | some "allow_trusted_fulfillment", .flag x => some { s with allowTrustedFulfillment := x }
  | some "permissionless_fulfillment", .flag x => some { s with permissionlessFulfillment := x }
  | some "watchdog_quorum", .number x => some { s with watchdogQuorum := x }
  | some "voting_period", .number x => some { s with votingPeriod := x }
  | some "execution_policy", .text x => some { s with executionPolicy := x }
  | some "emergency_report_threshold", .number x => some { s with reportThreshold := x }
  | some "emergency_report_window", .number x => some { s with reportWindow := x }
  | some "min_collateral_ratio", .number x => some { s with minCollateralRatio := x }
  | some "escalation_delay", .number x => some { s with escalationDelay := x }
  | _, _ => none

/-- Gives the settings new values, or lists the names that are no settings in their order. -/
def update (s : Settings) (changes : List (Text × Entry)) : Except Parameters.Fault Settings :=
  let unknown := (changes.filter fun c => (s.set? c.1 c.2).isNone).map Prod.fst
  if unknown.isEmpty then
    .ok (changes.foldl (fun s c => (s.set? c.1 c.2).getD s) s)
  else .error (.unknown (Text.sort unknown))

/-- The parameters, if the settings are sound; else the first fault. -/
def check (s : Settings) : Except Parameters.Fault Parameters :=
  match ExecutionPolicy.named? s.executionPolicy with
  | none => .error (.policy s.executionPolicy)
  | some policy =>
  match Network.named? s.network with
  | none => .error (.network s.network)
  | some network =>
  if h1 : s.consensusThreshold < 3 ∨ s.consensusThreshold % 2 = 0 then
    .error (.consensusThreshold s.consensusThreshold)
  else if h2 : s.attestationTimeout ≤ 0 then .error (.notPositive "attestation_timeout")
  else if h3 : s.maxStaleness ≤ 0 then .error (.notPositive "max_staleness")
  else if h4 : s.redemptionTimeout ≤ 0 then .error (.notPositive "redemption_timeout")
  else if h5 : s.votingPeriod ≤ 0 then .error (.notPositive "voting_period")
  else if h6 : s.reportWindow ≤ 0 then .error (.notPositive "emergency_report_window")
  else if h7 : s.escalationDelay ≤ 0 then .error (.notPositive "escalation_delay")
  else if h8 : s.minSyncInterval < 0 ∨ s.paymentTolerance < 0 then .error .negative
  else if h9 : s.maxBatchOperations < 1 then .error .batch
  else if h10 : s.minRedemptionAmount < s.dustThreshold then
    .error (.minimum s.minRedemptionAmount s.dustThreshold)
  else if h11 : s.difficultyFactor < 1 then .error .factor
  else if h12 : s.watchdogQuorum < 1 ∨ s.reportThreshold < 1 then .error .quorum
  else if h13 : s.minCollateralRatio < 100 then .error (.ratio s.minCollateralRatio)
  else .ok { s.toLimits with
    network, executionPolicy := policy
    sound := by constructor <;> omega }

end Settings

namespace Parameters

/-- The settings that these parameters passed from. -/
def settings (p : Parameters) : Settings :=
  { p.toLimits with network := p.network.name, executionPolicy := p.executionPolicy.name }

end Parameters

end BitcoinReserve
