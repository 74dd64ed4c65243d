import BitcoinReserve.Bank.Escalating
import BitcoinReserve.Bank.Enforcing

/-!
# Wallets and the standing of a reserve

A wallet can be registered on proof of control, one wallet for each proving transaction, and is
detached once nothing is owed from it.
-/
namespace BitcoinReserve.Bank

/-- Registers a wallet whose control a transaction proves, and gives the transaction's hash. -/
def attachProven (caller reserve wallet : Text) (challenge : Bytes) (tx : Transaction)
    (e : Evidence) : Action Bytes := do
  Action.decide fun s => s.authority.requireOrOwn caller reserve .registrar
  let _ ← Action.account reserve
  let hash ← Action.decide fun s =>
    (s.verifier.verifyControl wallet challenge tx e (some s.params.difficultyFactor)).mapError
      Refusal.control
  let s ← get
  Action.ensure (s.walletProofs.contains hash = false) (.transactionUsed hash)
  Action.onLedger_ fun s => s.ledger.attachWallet s.authority s.params caller reserve wallet
  modify fun s => { s with walletProofs := KeySet.add s.walletProofs hash }
  return hash

def detach (caller reserve wallet : Text) : Action Unit := do
  let s ← get
  Action.ensure (s.redemptions.walletOwes wallet = false) (.walletOwes wallet)
  Action.onLedger_ fun s => s.ledger.detachWallet s.authority caller reserve wallet

/-- Whether no tokens are out and no payout is owed. -/
def isSettled (s : Bank) (reserve : Text) : Except Refusal Bool := do
  let a ← s.ledger.account reserve
  return a.minted = 0 && !s.redemptions.reserveOwes reserve

structure Summary where
  account : Account
  oracleBalance : Int
  oracleOld : Bool
  pendingRedemptions : Nat
  reports : Nat
  escalationDue : Option Int

/-- The standing of a reserve. Reports that no longer count are forgotten. -/
def summarize (reserve : Text) (now : Int) : Action Summary := do
  let account ← Action.account reserve
  let s ← get
  let (oracleBalance, oracleOld) := s.oracle.balanceAndAge s.params reserve now
  let reports ← countReports reserve now
  return {
    account, oracleBalance, oracleOld, reports
    pendingRedemptions := (s.redemptions.pending reserve).length
    escalationDue := s.escalationDue reserve }

end BitcoinReserve.Bank
