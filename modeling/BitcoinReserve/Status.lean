import BitcoinReserve.Text.Basic

/-!
# Statuses

The stages of reserves, attestation rounds, redemptions and proposals, and the moves that a reserve
may make between its own.
-/
namespace BitcoinReserve

inductive ReserveStatus where
  | active
  | selfPaused
  | underReview
  | revoked
  /-- Reported of a frozen reserve, whose stored status is one of the others. -/
  | emergencyPaused
  deriving DecidableEq, Repr

namespace ReserveStatus

def name : ReserveStatus → String
  | active => "active"
  | selfPaused => "self_paused"
  | underReview => "under_review"
  | revoked => "revoked"
  | emergencyPaused => "emergency_paused"

def all : List ReserveStatus := [active, selfPaused, underReview, revoked, emergencyPaused]

def named? (text : Text) : Option ReserveStatus := all.find? (·.name = text)

/-- Every unrevoked reserve may come under review or be revoked. Only an active one pauses itself,
and a pause or a review may end in activity. -/
def mayBecome : ReserveStatus → ReserveStatus → Bool
  | active, selfPaused | active, underReview | active, revoked => true
  | selfPaused, active | selfPaused, underReview | selfPaused, revoked => true
  | underReview, active | underReview, revoked => true
  | _, _ => false

def redeemable : ReserveStatus → Bool
  | active | selfPaused | underReview => true
  | revoked | emergencyPaused => false

end ReserveStatus

inductive RoundStatus where
  | pending
  | finalized
  | expired
  | reset
  | overridden
  deriving DecidableEq, Repr

def RoundStatus.name : RoundStatus → String
  | pending => "pending"
  | finalized => "finalized"
  | expired => "expired"
  | reset => "reset"
  | overridden => "overridden"

inductive RedemptionStatus where
  | pending
  | fulfilled
  | defaulted
  deriving DecidableEq, Repr

def RedemptionStatus.name : RedemptionStatus → String
  | pending => "pending"
  | fulfilled => "fulfilled"
  | defaulted => "defaulted"

inductive ProposalStatus where
  | voting
  | approved
  | expired
  | executed
  deriving DecidableEq, Repr

def ProposalStatus.name : ProposalStatus → String
  | voting => "voting"
  | approved => "approved"
  | expired => "expired"
  | executed => "executed"

end BitcoinReserve
