import BitcoinReserve.Bank.State

/-!
# Syncing the backing

Copies the oracle's balance into the ledger, at most once in an interval for each reserve.
-/
namespace BitcoinReserve.Bank

/-- How long ago the account was synced, where that is too short a time. -/
def recentSync? (p : Parameters) (a : Account) (now : Int) : Option Int :=
  (a.lastSyncedAt.map (now - ·)).filter (· < p.minSyncInterval)

/-- Copies the balance without asking for a role. -/
def copyBalance (reserve : Text) (now : Int) : Action Int := do
  let s ← get
  let a ← Action.account reserve
  match recentSync? s.params a now with
  | some age => throw (.syncedRecently reserve age)
  | none =>
    match s.oracle.balances.get? reserve with
    | none => throw (.noBalance reserve)
    | some balance =>
      let (amount, old) := s.oracle.balanceAndAge s.params reserve now
      Action.ensure (old = false) (.balanceOld reserve)
      Action.onLedger_ fun s => s.ledger.setBacking reserve amount (some balance.updatedAt)
      modify fun s =>
        let stamp (a : Account) := { a with lastSyncedAt := some now }
        { s with ledger := { s.ledger with accounts := s.ledger.accounts.modify reserve stamp } }
      return amount

def sync (caller reserve : Text) (now : Int) : Action Int := do
  Action.require caller .syncer
  copyBalance reserve now

/-- Whether the balance was copied. -/
def syncIfPossible (caller reserve : Text) (now : Int) : Action Bool := do
  return (← Action.outcome (sync caller reserve now)).toBool

structure SyncItem where
  reserve : Text
  result : Except Refusal Int

structure SyncReport where
  items : List SyncItem
  skipped : List Text

namespace SyncReport

def budgetExhausted (r : SyncReport) : Bool := !r.skipped.isEmpty

def succeeded (r : SyncReport) : List Text :=
  (r.items.filter (·.result.toBool)).map SyncItem.reserve

def failed (r : SyncReport) : List Text :=
  (r.items.filter (!·.result.toBool)).map SyncItem.reserve

end SyncReport

def syncEach (now : Int) : List Text → Action (List SyncItem)
  | [] => return []
  | reserve :: rest => do
    let result ← Action.outcome (copyBalance reserve now)
    let items ← syncEach now rest
    return ⟨reserve, result⟩ :: items

/-- Syncs as many reserves as the budget allows, in order, and skips the rest. -/
def syncBatch (caller : Text) (reserves : List Text) (now : Int) (budget : Option Int) :
    Action SyncReport := do
  Action.require caller .syncer
  let budget := (budget.getD (← get).params.maxBatchOperations).toNat
  let items ← syncEach now (reserves.take budget)
  return ⟨items, reserves.drop budget⟩

end BitcoinReserve.Bank
