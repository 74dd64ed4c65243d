import BitcoinReserve.Parameters
import BitcoinReserve.Status
import BitcoinReserve.Table

/-!
# Reserve accounts

The record of one reserve holder: its cap, its backing as last attested, what is minted against it,
its status and its wallets.
-/
namespace BitcoinReserve

structure StatusChange where
  previous : ReserveStatus
  next : ReserveStatus
  reason : Text
  changedAt : Option Int
  deriving DecidableEq, Repr

structure Account where
  reserve : Text
  mintingCap : Int
  registeredAt : Option Int
  backing : Int
  backingUpdatedAt : Option Int
  minted : Int
  status : ReserveStatus
  /-- Set and cleared apart from the status. -/
  frozen : Bool
  lastSyncedAt : Option Int
  wallets : KeySet Text
  history : List StatusChange

namespace Account

def new (reserve : Text) (cap : Int) (now : Option Int) : Account where
  reserve := reserve
  mintingCap := cap
  registeredAt := now
  backing := 0
  backingUpdatedAt := none
  minted := 0
  status := .active
  frozen := false
  lastSyncedAt := none
  wallets := .empty
  history := []

def effectiveStatus (a : Account) : ReserveStatus := if a.frozen then .emergencyPaused else a.status

def underBacked (a : Account) : Bool := a.backing < a.minted

def availableToMint (a : Account) : Int := max 0 (min a.backing a.mintingCap - a.minted)

def canMint (a : Account) : Bool := a.status = .active && !a.frozen && !a.underBacked

def canRedeem (a : Account) : Bool := a.status.redeemable && !a.frozen

/-- A backing that was never updated counts as old. -/
def backingIsOld (a : Account) (p : Parameters) (now : Int) : Bool :=
  match a.backingUpdatedAt with
  | none => true
  | some updated => p.maxStaleness < now - updated

def moveTo (a : Account) (status : ReserveStatus) (reason : Text) (now : Option Int) : Account :=
  { a with status, history := a.history ++ [⟨a.status, status, reason, now⟩] }

end Account

end BitcoinReserve
