import BitcoinReserve.Bitcoin.Evidence
import BitcoinReserve.Role
import BitcoinReserve.Status
import BitcoinReserve.Violation

/-!
# Refusals

Why an operation is refused. Each cause keeps the data that its notice shows.
-/
namespace BitcoinReserve

inductive Refusal where
  | lacksRole (actor : Text) (role : Role)
  | pausedByOther
  | resumedByOther
  | mayNotFulfil (actor : Text)
  | address (fault : Address.Fault)
  /-- The evidence for a payout's transaction. -/
  | payment (fault : Evidence.Fault)
  /-- The evidence for control of a wallet. -/
  | control (fault : Evidence.Fault)
  | tokenMintNotPositive
  | tokenBurnNotPositive
  | tokensLacking (holder : Text) (balance amount : Int)
  | reserveIdMissing
  | capNotPositive (cap : Int)
  | reserveTaken (reserve : Text)
  | reserveUnknown (reserve : Text)
  | capNotHigher (proposed current : Int)
  | reserveFrozen (reserve : Text)
  | reserveNotFrozen (reserve : Text)
  | reserveNotActive (reserve : Text) (status : ReserveStatus)
  | backingOld (reserve : Text) (limit : Int)
  | capExceeded (amount total cap : Int)
  | backingExceeded (amount total backing : Int)
  | redeemNotPositive
  | mintedLacking (reserve : Text) (minted amount : Int)
  | backingNegative
  | freezeAsStatus
  | freezeAsProposal
  | moveNotAllowed (current proposed : ReserveStatus)
  | notSelfPaused (reserve : Text)
  | walletTaken (wallet owner : Text)
  | walletNotOwned (wallet reserve : Text)
  | walletOwes (wallet : Text)
  | attestedNegative
  | balanceNegative
  | justificationMissing
  | roundExpired (round : Nat) (deadline : Int)
  | badSignature (key : Text)
  | lengthsDiffer (reserves amounts : Nat)
  | syncedRecently (reserve : Text) (age : Int)
  | noBalance (reserve : Text)
  | balanceOld (reserve : Text)
  | belowMinimum (amount minimum : Int)
  | redemptionUnknown (id : Text)
  | redemptionClosed (id : Text) (status : RedemptionStatus)
  | redemptionNotDue (deadline now : Int)
  | defaultReasonMissing
  | transactionUsed (hash : Bytes)
  | claimExceedsPayment (claimed paid : Int)
  | paymentBelowDust (paid dust : Int)
  | paymentShort (paid amount : Int)
  | trustedDisabled
  | proposalReasonMissing
  | proposalUnknown (id : Int)
  | proposalExecuted (id : Int)
  | proposalExpired (deadline : Int)
  | votingOver (deadline : Int)
  | votingOpen (deadline : Int)
  | votedAlready (actor : Text) (id : Int)
  | quorumLacking (votes quorum : Int)
  | reportReasonMissing
  | reportedAlready (actor reserve : Text)
  | notObjective (code : Text)
  | noViolation (finding : Violation.Finding)
  | timerMissing (reserve : Text)
  | escalationNotDue (due : Int)
  deriving DecidableEq, Repr

namespace Refusal

def kind : Refusal → Kind
  | lacksRole _ _ | pausedByOther | resumedByOther | mayNotFulfil _ => .notAuthorized
  | address fault => fault.kind
  | payment fault | control fault => fault.kind
  | tokenMintNotPositive | tokenBurnNotPositive | redeemNotPositive | backingNegative
  | attestedNegative | balanceNegative => .invalidAmount
  | tokensLacking _ _ _ => .tokenOperationFailed
  | reserveIdMissing => .invalidParameters
  | capNotPositive _ => .invalidMintingCap
  | reserveTaken _ => .reserveAlreadyRegistered
  | reserveUnknown _ => .reserveNotFound
  | capNotHigher _ _ => .newCapMustBeHigher
  | reserveFrozen _ => .reserveEmergencyPaused
  | reserveNotFrozen _ => .reserveNotEmergencyPaused
  | reserveNotActive _ _ => .reserveNotActive
  | backingOld _ _ | balanceOld _ => .staleBacking
  | capExceeded _ _ _ => .mintingCapExceeded
  | backingExceeded _ _ _ => .insufficientBacking
  | mintedLacking _ _ _ => .insufficientMinted
  | freezeAsStatus | freezeAsProposal | moveNotAllowed _ _ | notSelfPaused _ =>
    .invalidStatusTransition
  | walletTaken _ _ => .walletAlreadyRegistered
  | walletNotOwned _ _ => .walletNotRegistered
  | walletOwes _ => .walletHasPendingRedemptions
  | justificationMissing => .justificationRequired
  | roundExpired _ _ => .attestationRoundExpired
  | badSignature _ => .signatureVerificationFailed
  | lengthsDiffer _ _ => .mismatchedArrays
  | syncedRecently _ _ => .syncTooFrequent
  | noBalance _ => .noOracleData
  | belowMinimum _ _ => .redemptionBelowMinimum
  | redemptionUnknown _ => .redemptionNotFound
  | redemptionClosed _ _ => .redemptionNotPending
  | redemptionNotDue _ _ => .redemptionNotTimedOut
  | defaultReasonMissing | proposalReasonMissing | reportReasonMissing => .reasonRequired
  | transactionUsed _ => .transactionAlreadyUsed
  | claimExceedsPayment _ _ => .paymentAmountMismatch
  | paymentBelowDust _ _ => .paymentBelowDust
  | paymentShort _ _ => .insufficientPayment
  | trustedDisabled => .trustedFulfillmentDisabled
  | proposalUnknown _ => .proposalNotFound
  | proposalExecuted _ => .proposalAlreadyExecuted
  | proposalExpired _ => .proposalExpired
  | votingOver _ => .votingEnded
  | votingOpen _ => .votingNotEnded
  | votedAlready _ _ => .alreadyVoted
  | quorumLacking _ _ => .proposalNotApproved
  | reportedAlready _ _ => .duplicateReport
  | notObjective _ => .notObjectiveViolation
  | noViolation _ | timerMissing _ => .violationNotFound
  | escalationNotDue _ => .escalationDelayNotReached

def message : Refusal → Text
  | lacksRole actor role => actor ++ " lacks the " ++ role.name ++ " capability"
  | pausedByOther => "Only the reserve holder can self-pause"
  | resumedByOther => "Only the reserve holder can resume"
  | mayNotFulfil actor => actor ++ " may not fulfil redemptions"
  | address fault => fault.message
  | payment fault | control fault => fault.message
  | tokenMintNotPositive => "Mint amount must be positive"
  | tokenBurnNotPositive => "Burn amount must be positive"
  | tokensLacking holder balance amount => holder ++ s!" holds {balance}, cannot burn {amount}"
  | reserveIdMissing => "Reserve id required"
  | capNotPositive cap => s!"Minting cap must be positive, got {cap}"
  | reserveTaken reserve => reserve
  | reserveUnknown reserve => reserve
  | capNotHigher proposed current => s!"{proposed} <= {current}"
  | reserveFrozen reserve => reserve
  | reserveNotFrozen reserve => reserve
  | reserveNotActive reserve status => reserve ++ " is " ++ status.name
  | backingOld reserve limit => "Backing of " ++ reserve ++ s!" is older than {limit}s"
  | capExceeded amount total cap => s!"Minting {amount} would reach {total}, cap is {cap}"
  | backingExceeded amount total backing =>
    s!"Minting {amount} would reach {total}, backing is {backing}"
  | redeemNotPositive => "Redeem amount must be positive"
  | mintedLacking reserve minted amount =>
    reserve ++ s!" has {minted} minted, cannot redeem {amount}"
  | backingNegative => "Backing cannot be negative"
  | freezeAsStatus => "Emergency pause is set through escalation"
  | freezeAsProposal => "Emergency pause goes through critical reports"
  | moveNotAllowed current proposed => s!"{current.name} -> {proposed.name} not allowed"
  | notSelfPaused reserve => reserve ++ " is not self-paused"
  | walletTaken wallet owner => wallet ++ " belongs to " ++ owner
  | walletNotOwned wallet reserve => wallet ++ " not registered to " ++ reserve
  | walletOwes wallet => wallet ++ " still has unfulfilled redemptions"
  | attestedNegative => "Attested balance cannot be negative"
  | balanceNegative => "Balance cannot be negative"
  | justificationMissing => "Override needs a justification"
  | roundExpired round deadline => s!"Round {round} closed at {deadline}"
  | badSignature key => "Bad signature from " ++ key.take 16 ++ "..."
  | lengthsDiffer reserves amounts => s!"{reserves} reserves, {amounts} amounts"
  | syncedRecently reserve age => reserve ++ s!" synced {age}s ago"
  | noBalance reserve => "No finalized balance for " ++ reserve
  | balanceOld reserve => "Oracle balance for " ++ reserve ++ " is stale"
  | belowMinimum amount minimum => s!"{amount} is below minimum {minimum}"
  | redemptionUnknown id => id
  | redemptionClosed id status => id ++ " is " ++ status.name
  | redemptionNotDue deadline now => s!"Deadline {deadline} not reached at {now}"
  | defaultReasonMissing => "Default needs a reason"
  | transactionUsed hash => displayTxid hash
  | claimExceedsPayment claimed paid => s!"Claimed {claimed}, transaction pays {paid}"
  | paymentBelowDust paid dust => s!"Paid {paid} is below dust {dust}"
  | paymentShort paid amount => s!"Paid {paid} of requested {amount}"
  | trustedDisabled => "Trusted fulfilment is disabled"
  | proposalReasonMissing => "Proposal needs a reason"
  | proposalUnknown id => toString id
  | proposalExecuted id => toString id
  | proposalExpired deadline => s!"Voting closed at {deadline}"
  | votingOver deadline => s!"Voting closed at {deadline}"
  | votingOpen deadline => s!"Voting open until {deadline}"
  | votedAlready actor id => actor ++ s!" already voted on {id}"
  | quorumLacking votes quorum => s!"{votes} votes, quorum is {quorum}"
  | reportReasonMissing => "Report needs a reason"
  | reportedAlready actor reserve => actor ++ " already reported " ++ reserve ++ " in this window"
  | notObjective code => code ++ " is not an objective violation"
  | noViolation finding => finding.detail
  | timerMissing reserve => "No escalation timer for " ++ reserve
  | escalationNotDue due => s!"Escalation possible from {due}"

def notice (r : Refusal) : Notice := .of r.kind r.message

/-- The part of the library that finds the fault. -/
inductive Area where
  | rules
  | evidence
  | address
  deriving DecidableEq, Repr

def area : Refusal → Area
  | address _ => .address
  | control _ => .evidence
  | payment fault => if fault.kind.concernsEvidence then .evidence else .rules
  | _ => .rules

end Refusal

/-- Goes on when the condition holds, and refuses otherwise. -/
def ensure (condition : Prop) [Decidable condition] (refusal : Refusal) : Except Refusal Unit :=
  if condition then .ok () else .error refusal

theorem ensure_eq_ok_iff {condition : Prop} [Decidable condition] {refusal : Refusal} {u : Unit} :
    ensure condition refusal = .ok u ↔ condition := by
  unfold ensure
  split <;> simp_all

end BitcoinReserve
