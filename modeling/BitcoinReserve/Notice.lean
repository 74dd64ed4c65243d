import BitcoinReserve.Text.Basic

/-!
# Kinds of refusal and their notices

A notice is what a caller is told about a refusal: its kind and a line of text.
-/
namespace BitcoinReserve

inductive Kind where
  | notAuthorized
  | invalidAmount
  | invalidParameters
  | mismatchedArrays
  | badVarInt
  | badInputVector
  | badOutputVector
  | proofLengthMismatch
  | invalidHeadersLength
  | merkleProofInvalid
  | coinbaseProofInvalid
  | difficultyMismatch
  | invalidHeaderChain
  | insufficientHeaderWork
  | insufficientAccumulatedWork
  | invalidAddressLength
  | invalidAddressPrefix
  | invalidAddressFormat
  | reserveNotFound
  | reserveAlreadyRegistered
  | reserveNotActive
  | reserveEmergencyPaused
  | reserveNotEmergencyPaused
  | invalidStatusTransition
  | invalidMintingCap
  | newCapMustBeHigher
  | mintingCapExceeded
  | insufficientBacking
  | insufficientMinted
  | staleBacking
  | walletAlreadyRegistered
  | walletNotRegistered
  | walletHasPendingRedemptions
  | walletControlNotProven
  | tokenOperationFailed
  | attestationRoundExpired
  | signatureVerificationFailed
  | noOracleData
  | syncTooFrequent
  | justificationRequired
  | redemptionBelowMinimum
  | redemptionNotFound
  | redemptionNotPending
  | redemptionNotTimedOut
  | paymentAmountMismatch
  | paymentBelowDust
  | insufficientPayment
  | transactionAlreadyUsed
  | trustedFulfillmentDisabled
  | reasonRequired
  | proposalNotFound
  | proposalAlreadyExecuted
  | proposalNotApproved
  | proposalExpired
  | votingEnded
  | votingNotEnded
  | alreadyVoted
  | duplicateReport
  | notObjectiveViolation
  | violationNotFound
  | escalationDelayNotReached
  deriving DecidableEq, Repr

namespace Kind

def name : Kind → String
  | notAuthorized => "NotAuthorized"
  | invalidAmount => "InvalidAmount"
  | invalidParameters => "InvalidParameters"
  | mismatchedArrays => "MismatchedArrays"
  | badVarInt => "BadVarInt"
  | badInputVector => "BadInputVector"
  | badOutputVector => "BadOutputVector"
  | proofLengthMismatch => "ProofLengthMismatch"
  | invalidHeadersLength => "InvalidHeadersLength"
  | merkleProofInvalid => "MerkleProofInvalid"
  | coinbaseProofInvalid => "CoinbaseProofInvalid"
  | difficultyMismatch => "DifficultyMismatch"
  | invalidHeaderChain => "InvalidHeaderChain"
  | insufficientHeaderWork => "InsufficientHeaderWork"
  | insufficientAccumulatedWork => "InsufficientAccumulatedWork"
  | invalidAddressLength => "InvalidAddressLength"
  | invalidAddressPrefix => "InvalidAddressPrefix"
  | invalidAddressFormat => "InvalidAddressFormat"
  | reserveNotFound => "ReserveNotFound"
  | reserveAlreadyRegistered => "ReserveAlreadyRegistered"
  | reserveNotActive => "ReserveNotActive"
  | reserveEmergencyPaused => "ReserveEmergencyPaused"
  | reserveNotEmergencyPaused => "ReserveNotEmergencyPaused"
  | invalidStatusTransition => "InvalidStatusTransition"
  | invalidMintingCap => "InvalidMintingCap"
  | newCapMustBeHigher => "NewCapMustBeHigher"
  | mintingCapExceeded => "MintingCapExceeded"
  | insufficientBacking => "InsufficientBacking"
  | insufficientMinted => "InsufficientMinted"
  | staleBacking => "StaleBacking"
  | walletAlreadyRegistered => "WalletAlreadyRegistered"
  | walletNotRegistered => "WalletNotRegistered"
  | walletHasPendingRedemptions => "WalletHasPendingRedemptions"
  | walletControlNotProven => "WalletControlNotProven"
  | tokenOperationFailed => "TokenOperationFailed"
  | attestationRoundExpired => "AttestationRoundExpired"
  | signatureVerificationFailed => "SignatureVerificationFailed"
  | noOracleData => "NoOracleData"
  | syncTooFrequent => "SyncTooFrequent"
  | justificationRequired => "JustificationRequired"
  | redemptionBelowMinimum => "RedemptionBelowMinimum"
  | redemptionNotFound => "RedemptionNotFound"
  | redemptionNotPending => "RedemptionNotPending"
  | redemptionNotTimedOut => "RedemptionNotTimedOut"
  | paymentAmountMismatch => "PaymentAmountMismatch"
  | paymentBelowDust => "PaymentBelowDust"
  | insufficientPayment => "InsufficientPayment"
  | transactionAlreadyUsed => "TransactionAlreadyUsed"
  | trustedFulfillmentDisabled => "TrustedFulfillmentDisabled"
  | reasonRequired => "ReasonRequired"
  | proposalNotFound => "ProposalNotFound"
  | proposalAlreadyExecuted => "ProposalAlreadyExecuted"
  | proposalNotApproved => "ProposalNotApproved"
  | proposalExpired => "ProposalExpired"
  | votingEnded => "VotingEnded"
  | votingNotEnded => "VotingNotEnded"
  | alreadyVoted => "AlreadyVoted"
  | duplicateReport => "DuplicateReport"
  | notObjectiveViolation => "NotObjectiveViolation"
  | violationNotFound => "ViolationNotFound"
  | escalationDelayNotReached => "EscalationDelayNotReached"

def all : List Kind :=
  [notAuthorized, invalidAmount, invalidParameters, mismatchedArrays, badVarInt, badInputVector,
    badOutputVector, proofLengthMismatch, invalidHeadersLength, merkleProofInvalid,
    coinbaseProofInvalid, difficultyMismatch, invalidHeaderChain, insufficientHeaderWork,
    insufficientAccumulatedWork, invalidAddressLength, invalidAddressPrefix, invalidAddressFormat,
    reserveNotFound, reserveAlreadyRegistered, reserveNotActive, reserveEmergencyPaused,
    reserveNotEmergencyPaused, invalidStatusTransition, invalidMintingCap, newCapMustBeHigher,
    mintingCapExceeded, insufficientBacking, insufficientMinted, staleBacking,
    walletAlreadyRegistered, walletNotRegistered, walletHasPendingRedemptions,
    walletControlNotProven, tokenOperationFailed, attestationRoundExpired,
    signatureVerificationFailed, noOracleData, syncTooFrequent, justificationRequired,
    redemptionBelowMinimum, redemptionNotFound, redemptionNotPending, redemptionNotTimedOut,
    paymentAmountMismatch, paymentBelowDust, insufficientPayment, transactionAlreadyUsed,
    trustedFulfillmentDisabled, reasonRequired, proposalNotFound, proposalAlreadyExecuted,
    proposalNotApproved, proposalExpired, votingEnded, votingNotEnded, alreadyVoted,
    duplicateReport, notObjectiveViolation, violationNotFound, escalationDelayNotReached]

def named? (text : Text) : Option Kind := all.find? (·.name = text)

/-- The kinds that find fault with the evidence for a transaction. -/
def concernsEvidence : Kind → Bool
  | badInputVector | badOutputVector | proofLengthMismatch | invalidHeadersLength
  | merkleProofInvalid | coinbaseProofInvalid | difficultyMismatch | invalidHeaderChain
  | insufficientHeaderWork | insufficientAccumulatedWork => true
  | _ => false

theorem mem_all (k : Kind) : k ∈ all := by cases k <;> decide

end Kind

structure Notice where
  kind : Kind
  message : Text
  deriving DecidableEq, Repr

namespace Notice

/-- A notice without a text of its own carries the name of its kind. -/
def of (kind : Kind) (message : Text) : Notice :=
  ⟨kind, if message = "" then kind.name else message⟩

def text (n : Notice) : Text := n.kind.name ++ ": " ++ n.message

end Notice

end BitcoinReserve
