import BitcoinReserve.Proofs.Ledger.Registry

/-!
# Accounts of other reserves

Every operation on the ledger writes one account. The accounts of all other reserves stay as they
were, and with them the wallets that are registered to these.
-/
namespace BitcoinReserve.Ledger

/-- The account of a reserve is the same, or there is none before and after. -/
def Spares (l l' : Ledger) (reserve : Text) : Prop :=
  l'.accounts.get? reserve = l.accounts.get? reserve

variable {l l' : Ledger} {auth : Authority} {p : Parameters} {network : Network}
  {caller reserve other holder wallet : Text} {a : Account} {amount total : Int} {now : Option Int}

/-- The registry has the same wallets for a reserve whose account is the same. -/
theorem Spares.owner_iff (h : l.Spares l' reserve) (registered : l.Registered network)
    (registered' : l'.Registered network) (wallet : Text) :
    l'.walletOwners.get? wallet = some reserve ↔ l.walletOwners.get? wallet = some reserve := by
  rw [registered.owner_iff, registered'.owner_iff, h]

theorem spares_put (l : Ledger) (a : Account) (apart : other ≠ reserve) :
    l.Spares (l.put other a) reserve :=
  Table.get?_insert_of_ne _ _ apart

theorem spares_register {cap : Int} (h : l.register auth caller other cap now = .ok (a, l'))
    (apart : other ≠ reserve) : l.Spares l' reserve := by
  obtain ⟨-, -, -, -, rfl⟩ := register_eq_ok h
  exact spares_put _ _ apart

theorem spares_raiseCap {cap : Int} (h : l.raiseCap auth caller other cap = .ok l')
    (apart : other ≠ reserve) : l.Spares l' reserve := by
  obtain ⟨-, b, -, -, rfl⟩ := raiseCap_eq_ok h
  exact spares_put _ _ apart

theorem spares_mint (h : l.mint auth p caller other holder amount now = .ok (total, l'))
    (apart : other ≠ reserve) : l.Spares l' reserve := by
  obtain ⟨-, -, b, token, -, -, -, -, -, -, -, rfl⟩ := mint_eq_ok h
  exact spares_put _ _ apart

theorem spares_redeem (h : l.redeem auth caller other holder amount = .ok (total, l'))
    (apart : other ≠ reserve) : l.Spares l' reserve := by
  obtain ⟨-, -, b, token, -, -, -, -, -, rfl⟩ := redeem_eq_ok h
  exact spares_put _ _ apart

theorem spares_setBacking {backing : Int} (h : l.setBacking other backing now = .ok l')
    (apart : other ≠ reserve) : l.Spares l' reserve := by
  obtain ⟨-, b, -, rfl⟩ := setBacking_eq_ok h
  exact spares_put _ _ apart

theorem spares_setStatus {status : ReserveStatus} {reason : Text}
    (h : l.setStatus other status reason now = .ok l') (apart : other ≠ reserve) :
    l.Spares l' reserve := by
  obtain ⟨b, -, -, -, rfl⟩ := setStatus_eq_ok h
  exact spares_put _ _ apart

theorem spares_setFrozen {frozen : Bool} (h : l.setFrozen other frozen = .ok l')
    (apart : other ≠ reserve) : l.Spares l' reserve := by
  obtain ⟨b, -, -, rfl⟩ := setFrozen_eq_ok h
  exact spares_put _ _ apart

theorem spares_attachWallet (h : l.attachWallet auth p caller other wallet = .ok l')
    (apart : other ≠ reserve) : l.Spares l' reserve := by
  obtain ⟨-, d, b, -, -, -, rfl⟩ := attachWallet_eq_ok h
  exact spares_put _ _ apart

theorem spares_detachWallet (h : l.detachWallet auth caller other wallet = .ok l')
    (apart : other ≠ reserve) : l.Spares l' reserve := by
  obtain ⟨-, b, -, -, rfl⟩ := detachWallet_eq_ok h
  exact spares_put _ _ apart

end BitcoinReserve.Ledger
