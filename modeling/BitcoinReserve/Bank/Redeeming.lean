import BitcoinReserve.Bank.State

/-!
# Redeeming tokens

Tokens are burnt for a payout. The payout is fulfilled by a transaction that pays enough, each
transaction for one redemption, or by a trusted word, or it is found in default after its deadline.
-/
namespace BitcoinReserve.Bank

/-- Burns the caller's tokens and opens a redemption. Where the names make no id, the tokens are
burnt and the number is taken without a redemption. -/
def redeem (caller reserve : Text) (amount : Int) (address wallet : Text) (now : Int) :
    Action (Option Redemption) := do
  let s ← get
  Action.ensure (s.params.minRedemptionAmount ≤ amount)
    (.belowMinimum amount s.params.minRedemptionAmount)
  let _ ← Action.decide fun s =>
    (Address.decode s.params.network address).mapError Refusal.address
  let _ ← Action.account reserve
  Action.ensure (s.ledger.ownsWallet reserve wallet = true) (.walletNotOwned wallet reserve)
  let _ ← Action.onLedger fun s => s.ledger.redeem s.authority caller reserve caller amount
  Action.onRedemptions fun b => b.advance
  match Redemption.idOf? (Redemption.seed reserve caller (s.redemptions.count + 1) now) with
  | none => return none
  | some id =>
    let r := Redemption.new id reserve caller amount address wallet now s.params.redemptionTimeout
    Action.onRedemptions fun b => b.add r
    return some r

def redemption (s : Bank) (id : Text) : Except Refusal Redemption :=
  match s.redemptions.records.get? id with
  | some r => .ok r
  | none => .error (.redemptionUnknown id)

def pendingRedemption (s : Bank) (id : Text) : Except Refusal Redemption := do
  let r ← s.redemption id
  ensure (r.status = .pending) (.redemptionClosed id r.status)
  return r

/-- A payment is enough when it is no dust and lacks no more than the tolerance. -/
def checkPayment (p : Parameters) (r : Redemption) (paid : Int) : Except Refusal Unit := do
  ensure (p.dustThreshold ≤ paid) (.paymentBelowDust paid p.dustThreshold)
  ensure (r.amount ≤ paid + p.paymentTolerance) (.paymentShort paid r.amount)

/-- What a transaction pays to an address of the network. -/
def amountPaid (network : Network) (address : Text) (outputVector : Bytes) : Int :=
  match Address.decode network address, OutputVector.decode outputVector with
  | .ok destination, .ok outputs => destination.amountPaid outputs
  | _, _ => 0

/-- The amount and the hash of an unused transaction that proves the payout. -/
def checkProof (s : Bank) (r : Redemption) (claimed : Int) (tx : Transaction) (e : Evidence) :
    Except Refusal (Int × Bytes) := do
  let hash ← (s.verifier.verify tx e (some s.params.difficultyFactor)).mapError Refusal.payment
  ensure (s.redemptions.usedTransactions.contains hash = false) (.transactionUsed hash)
  let paid := amountPaid s.params.network r.address tx.outputVector
  ensure (claimed ≤ paid) (.claimExceedsPayment claimed paid)
  checkPayment s.params r paid
  return (paid, hash)

def fulfill (caller id : Text) (claimed : Int) (tx : Transaction) (e : Evidence) (now : Int) :
    Action Redemption := do
  let s ← get
  Action.ensure
    (s.params.permissionlessFulfillment = true ∨ s.authority.allows caller .redemptionFulfiller)
    (.mayNotFulfil caller)
  let r ← Action.decide fun s => s.pendingRedemption id
  let (paid, hash) ← Action.decide fun s => s.checkProof r claimed tx e
  let r := r.fulfill paid (some hash) now
  Action.onRedemptions fun b => (b.claim hash).settle r
  return r

/-- Whether the redemption was fulfilled. -/
def fulfillIfPossible (caller id : Text) (claimed : Int) (tx : Transaction) (e : Evidence)
    (now : Int) : Action Bool := do
  return (← Action.outcome (fulfill caller id claimed tx e now)).toBool

def fulfillTrusted (caller id : Text) (amount now : Int) : Action Redemption := do
  let s ← get
  Action.ensure (s.params.allowTrustedFulfillment = true) .trustedDisabled
  Action.require caller .redemptionFulfiller
  let r ← Action.decide fun s => s.pendingRedemption id
  Action.decide fun s => checkPayment s.params r amount
  let r := r.fulfill amount none now
  Action.onRedemptions fun b => b.settle r
  return r

/-- An arbiter finds an overdue redemption in default. -/
def flagDefault (caller id reason : Text) (now : Int) : Action Redemption := do
  Action.require caller .arbiter
  Action.ensure (reason ≠ "") .defaultReasonMissing
  let r ← Action.decide fun s => s.pendingRedemption id
  Action.ensure (r.deadline < now) (.redemptionNotDue r.deadline now)
  let r := r.toDefault reason now
  Action.onRedemptions fun b => b.settle r
  return r

end BitcoinReserve.Bank
