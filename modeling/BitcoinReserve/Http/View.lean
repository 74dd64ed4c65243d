import BitcoinReserve.Json.Wire
import BitcoinReserve.Bank.Redeeming
import BitcoinReserve.Bank.Wallets

/-!
# Views

What the interface shows of accounts, redemptions and refusals.
-/
namespace BitcoinReserve

def Json.ofOption {α : Type} (f : α → Json) : Option α → Json
  | some a => f a
  | none => .null

namespace Account

def view (a : Account) : List (Text × Json) :=
  [("reserve_id", .text a.reserve),
    ("minting_cap", .int a.mintingCap),
    ("backing", .int a.backing),
    ("backing_updated_at", .ofOption .int a.backingUpdatedAt),
    ("minted", .int a.minted),
    ("status", .text a.status.name),
    ("effective_status", .text a.effectiveStatus.name),
    ("emergency_paused", .bool a.frozen),
    ("minting_disabled", .bool a.underBacked),
    ("available_to_mint", .int a.availableToMint),
    ("wallets", .array ((Text.sort a.wallets.keys).map .text))]

end Account

namespace Bank.Summary

def view (s : Bank.Summary) : Json :=
  let standing : List (Text × Json) :=
    [("oracle_balance", .int s.oracleBalance),
      ("oracle_stale", .bool s.oracleOld),
      ("active_redemptions", .int s.pendingRedemptions),
      ("critical_reports", .int s.reports),
      ("escalation_deadline", .ofOption .int s.escalationDue)]
  .object (s.account.view ++ standing)

end Bank.Summary

namespace Redemption

def view (r : Redemption) : Json :=
  .object
    [("redemption_id", .text r.id),
      ("reserve_id", .text r.reserve),
      ("user", .text r.user),
      ("amount", .int r.amount),
      ("btc_address", .text r.address),
      ("wallet", .text r.wallet),
      ("requested_at", .int r.requestedAt),
      ("deadline", .int r.deadline),
      ("status", .text r.status.name),
      ("fulfilled_amount", .ofOption .int r.fulfilledAmount),
      ("fulfillment_txid", .ofOption (fun hash => .text (displayTxid hash)) r.transaction),
      ("default_reason", .ofOption .text r.defaultReason)]

end Redemption

end BitcoinReserve
