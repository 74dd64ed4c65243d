import BitcoinReserve.Bitcoin.Transaction
import BitcoinReserve.Status
import BitcoinReserve.Table
import BitcoinReserve.Text.Utf8

/-!
# Redemptions

A redemption is a burn of tokens that waits for a Bitcoin payout. The book keeps every redemption
ever opened, the pending ones by reserve and by wallet, and the transactions that proved a payout.
-/
namespace BitcoinReserve

structure Redemption where
  id : Text
  reserve : Text
  user : Text
  amount : Int
  address : Text
  /-- The wallet of the reserve that is expected to pay. -/
  wallet : Text
  requestedAt : Int
  deadline : Int
  status : RedemptionStatus
  fulfilledAmount : Option Int
  transaction : Option Bytes
  fulfilledAt : Option Int
  /-- Fulfilled on the word of a trusted caller. -/
  trusted : Bool
  defaultReason : Option Text
  defaultedAt : Option Int
  deriving DecidableEq, Repr

namespace Redemption

def new (id reserve user : Text) (amount : Int) (address wallet : Text) (now timeout : Int) :
    Redemption where
  id := id
  reserve := reserve
  user := user
  amount := amount
  address := address
  wallet := wallet
  requestedAt := now
  deadline := now + timeout
  status := .pending
  fulfilledAmount := none
  transaction := none
  fulfilledAt := none
  trusted := false
  defaultReason := none
  defaultedAt := none

def isOverdue (r : Redemption) (now : Int) : Bool := r.status = .pending && r.deadline < now

/-- Fulfilled by a transaction, or on trust without one. -/
def fulfill (r : Redemption) (paid : Int) (transaction : Option Bytes) (now : Int) : Redemption :=
  { r with
    status := .fulfilled
    fulfilledAmount := some paid
    transaction
    fulfilledAt := some now
    trusted := transaction.isNone }

def toDefault (r : Redemption) (reason : Text) (now : Int) : Redemption :=
  { r with status := .defaulted, defaultReason := some reason, defaultedAt := some now }

/-- The text whose hash names the redemption. -/
def seed (reserve user : Text) (number : Nat) (now : Int) : Text :=
  reserve ++ "_" ++ user ++ s!"_{number}_{now}"

/-- There is no id where the seed has no bytes. -/
def idOf? (seed : Text) : Option Text :=
  (Text.utf8? seed).map fun bytes => Hex.encode (sha256 bytes)

end Redemption

structure RedemptionBook where
  count : Nat
  records : Table Text Redemption
  pendingByReserve : Table Text (KeySet Text)
  pendingByWallet : Table Text (KeySet Text)
  usedTransactions : KeySet Bytes

namespace RedemptionBook

def empty : RedemptionBook := ⟨0, .empty, .empty, .empty, .empty⟩

/-- Takes the next number. -/
def advance (b : RedemptionBook) : RedemptionBook := { b with count := b.count + 1 }

/-- Opens a redemption. -/
def add (b : RedemptionBook) (r : Redemption) : RedemptionBook :=
  let join (index : Table Text (KeySet Text)) (key : Text) :=
    index.insert key (KeySet.add (index.getD key .empty) r.id)
  { b with
    records := b.records.insert r.id r
    pendingByReserve := join b.pendingByReserve r.reserve
    pendingByWallet := join b.pendingByWallet r.wallet }

/-- Replaces a redemption by its final form, which waits no longer. -/
def settle (b : RedemptionBook) (r : Redemption) : RedemptionBook :=
  { b with
    records := b.records.insert r.id r
    pendingByReserve := b.pendingByReserve.modify r.reserve fun ids => ids.erase r.id
    pendingByWallet := b.pendingByWallet.modify r.wallet fun ids => ids.erase r.id }

def claim (b : RedemptionBook) (transaction : Bytes) : RedemptionBook :=
  { b with usedTransactions := KeySet.add b.usedTransactions transaction }

/-- The pending redemptions of a reserve in order of their ids. -/
def pending (b : RedemptionBook) (reserve : Text) : List Redemption :=
  (Text.sort (b.pendingByReserve.getD reserve .empty).keys).filterMap b.records.get?

def reserveOwes (b : RedemptionBook) (reserve : Text) : Bool :=
  !(b.pendingByReserve.getD reserve .empty).isEmpty

def walletOwes (b : RedemptionBook) (wallet : Text) : Bool :=
  !(b.pendingByWallet.getD wallet .empty).isEmpty

def overdue (b : RedemptionBook) (now : Int) : List Redemption :=
  b.records.values.filter (·.isOverdue now)

end RedemptionBook

end BitcoinReserve
